import CodeRepair.Proofs.Service.Determinacy
import CodeRepair.Proofs.Service.Enrolment
import CodeRepair.Proofs.Service.Playing

/-!
A batch request and paced steps drive a session to the same end. Each driver plays the session that it opens, attempt
after attempt, and takes boundedly many actions for each of them; and a play has one end.
-/
namespace CodeRepair

/-- Steps are asked for, one after the other, until one makes no attempt: the attempts made, and the last answer. -/
def Outside.stepAll {m : Type → Type} [Monad m] (o : Outside m) (s : Settings) (id : String) :
    Nat → Machine → m (List Attempt × Option Answer × Machine)
  | 0, machine => return ([], none, machine)
  | fuel + 1, machine => do
    match ← o.serve s machine (.step id) 0 with
    | (some (.ok (.attempt a)), machine) =>
      let (attempts, last, machine) ← o.stepAll s id fuel machine
      return (a :: attempts, last, machine)
    | (answer, machine) => return ([], answer, machine)

namespace Machine

variable {s : Settings} {m m' m'' : Machine} {job k k' max bits : Nat} {mode : Mode} {phase phase' : Phase}
  {r r₀ : Registry} {cs : List (Option Nat × Call)} {action : Action} {x y : Session} {reply : Answer}
  {request : Request} {language : Language} {code : String}

section Conducting

variable {ρ : Replies} {clock : Nat → Time.Stamp} {e e' e'' : List Call × Nat}

/-- A job goes on by so many actions, which brings a machine and the outside on. -/
def Conducts (ρ : Replies) (clock : Nat → Time.Stamp) (s : Settings) (job k : Nat) (m : Machine)
    (e : List Call × Nat) (m' : Machine) (e' : List Call × Nat) : Prop :=
  ∀ fuel, ((ρ.outside clock).conduct s job (fuel + k) m).run e = ((ρ.outside clock).conduct s job fuel m').run e'

theorem Conducts.refl : Conducts ρ clock s job 0 m e m e := fun _ ↦ rfl

theorem Conducts.trans (hc : Conducts ρ clock s job k m e m' e') (hc' : Conducts ρ clock s job k' m' e' m'' e'') :
    Conducts ρ clock s job (k' + k) m e m'' e'' := fun fuel ↦ by
  rw [← Nat.add_assoc, hc, hc']

theorem exists_conducts (clock : Nat → Time.Stamp) (hj : m.jobs[job]? = some ⟨mode, phase⟩)
    (hnext : ((ρ.outside clock).next job phase).run e = (some action, e'))
    (hp : Progress s m (clock e'.2) job action mode phase phase' r cs) :
    ∃ m', Conducts ρ clock s job 1 m e m' (e'.1, e'.2 + 1) ∧ m'.jobs[job]? = some ⟨mode, phase'⟩ ∧
      m'.registry = r := by
  refine ⟨m.moved job phase' r cs, fun fuel ↦ ?_, by simp [moved, setPhase, hj], rfl⟩
  rw [← hp.step_eq hj, Outside.conduct]
  simp only [hj, StateT.run_bind, hnext]
  rfl

theorem conduct_answered (hj : m.jobs[job]? = some ⟨mode, .answered reply⟩) (fuel : Nat) (e : List Call × Nat) :
    ((ρ.outside clock).conduct s job fuel m).run e = (m, e) := by
  cases fuel with
  | zero => rfl
  | succ fuel =>
    simp only [Outside.conduct, hj]
    rfl

theorem serve_of_conducts (hk : k ≤ Outside.patience)
    (hc : Conducts ρ clock s m.jobs.length k (m.step s (clock e.2) (.arrive request bits)) (e.1, e.2 + 1) m' e')
    (hj : m'.jobs[m.jobs.length]? = some ⟨mode, .answered reply⟩) :
    ((ρ.outside clock).serve s m request bits).run e = ((some reply, m'), e') := by
  have hnow : (ρ.outside clock).now.run e = pure (clock e.2, e.1, e.2 + 1) := rfl
  have hconduct : ((ρ.outside clock).conduct s m.jobs.length Outside.patience
      (m.step s (clock e.2) (.arrive request bits))).run (e.1, e.2 + 1) = pure (m', e') := by
    have hall := hc (Outside.patience - k)
    rwa [Nat.sub_add_cancel hk, conduct_answered hj] at hall
  simp only [Outside.serve, StateT.run_bind, hnow, pure_bind, hconduct, hj]
  rfl

theorem serve_answered
    (hj : (m.step s (clock e.2) (.arrive request bits)).jobs[m.jobs.length]? = some ⟨mode, .answered reply⟩) :
    ((ρ.outside clock).serve s m request bits).run e =
      ((some reply, m.step s (clock e.2) (.arrive request bits)), e.1, e.2 + 1) :=
  serve_of_conducts (Nat.zero_le _) .refl hj

end Conducting

section Attempts

variable {ρ : Replies} {e e' : List Call × Nat} {calls calls' : List Call} {result : ExecutionResult}
  {fixed : Option Fix} {a : Attempt}

/-- A session with the jobs that stand in line for it, and without a token that could be cancelled. -/
def sole (mode : Mode) (x : Session) (turns : List Nat) : Handle := ⟨x.id, mode, x, false, none, turns⟩

theorem adds_enqueued (hr : r₀.Adds m.registry (sole mode x [])) (job : Nat) :
    r₀.Adds (m.enqueue r₀.handles.length job).registry (sole mode x [job]) :=
  hr.modify rfl rfl

theorem adds_left (hr : r₀.Adds m.registry (sole mode x [job])) (hc : x.isComplete = true) (now : Time.Stamp) :
    r₀.Adds (m.left now r₀.handles.length job) (sole mode x []) :=
  hr.modify (by simp [sole, Session.finish_of_complete _ _ hc]) rfl

theorem adds_recorded (hr : r₀.Adds m.registry (sole mode x [job])) (s : Settings) (now : Time.Stamp) (a : Attempt) :
    r₀.Adds (m.recorded s now r₀.handles.length job a) (sole mode (x.extend s.config.retry.onNoFix a now) []) :=
  hr.modify (by simp [sole, Session.extend_id]) (Session.extend_id _ _ _ _)

def Made (s : Settings) (m : Machine) (r₀ : Registry) (job : Nat) (mode : Mode) (x : Session) (a : Attempt) : Prop :=
  m.jobs[job]? = some ⟨mode, recordedPhase r₀.handles.length a mode⟩ ∧
    ∃ now, r₀.Adds m.registry (sole mode (x.extend s.config.retry.onNoFix a now) [])

theorem conducts_recorded (clock : Nat → Time.Stamp) (hr : r₀.Adds m.registry (sole mode x [job]))
    (hj : m.jobs[job]? = some ⟨mode, phase⟩)
    (hnext : ((ρ.outside clock).next job phase).run e = (some action, e'))
    (hp : Progress s m (clock e'.2) job action mode phase (recordedPhase r₀.handles.length a mode)
      (m.recorded s (clock e'.2) r₀.handles.length job a) m.calls) :
    ∃ m', Conducts ρ clock s job 1 m e m' (e'.1, e'.2 + 1) ∧ m'.Made s r₀ job mode x a := by
  obtain ⟨m', hconducts, hj', hr'⟩ := exists_conducts clock hj hnext hp
  exact ⟨m', hconducts, hj', _, hr' ▸ adds_recorded hr s _ a⟩

theorem conducts_fix {since : Time.Stamp} {fix : Fix} (hr : r₀.Adds m.registry (sole mode x [job]))
    (hj : m.jobs[job]? = some ⟨mode, .askingPrimary (Flight.failure r₀.handles.length x since result)⟩)
    (hfailed : result.succeeded = false) (hfix : ρ.fix s x result calls = (fix, calls')) (clock : Nat → Time.Stamp)
    (ticks : Nat) :
    ∃ k ticks' m', k ≤ 2 ∧ Conducts ρ clock s job k m (calls, ticks) m' (calls', ticks') ∧
      m'.Made s r₀ job mode x (x.nextAttempt since result (some fix)) := by
  have hattempt := x.nextAttempt_of_failed since hfailed
  unfold Replies.fix at hfix
  dsimp only at hfix
  split at hfix
  next fix hsettled =>
    cases hfix
    obtain ⟨m', hconducts, hmade⟩ := conducts_recorded (e := (calls, ticks)) clock hr hj rfl
      (.settled (.byPrimary hsettled) rfl (hattempt _))
    exact ⟨1, _, m', by omega, hconducts, hmade⟩
  next problem hproblem =>
    cases hfix
    obtain ⟨m₁, hasked, hj₁, hr₁⟩ := exists_conducts (e := (calls, ticks)) clock hj rfl (.askedFallback hproblem)
    obtain ⟨m', hconducts, hmade⟩ := conducts_recorded (e := (_, ticks + 1)) clock (hr₁ ▸ hr) hj₁ rfl
      (.settled (.byFallback _ problem) rfl (hattempt _))
    exact ⟨2, _, m', by omega, hasked.trans hconducts, hmade⟩

theorem conducts_attempt (hr : r₀.Adds m.registry (sole mode x [job]))
    (hj : m.jobs[job]? = some ⟨mode, .waiting r₀.handles.length⟩) (hrun : x.state = .running)
    (ha : ρ.attempt s x calls = (result, fixed, calls')) (clock : Nat → Time.Stamp) (ticks : Nat) :
    ∃ k since ticks' m', k ≤ 4 ∧ Conducts ρ clock s job k m (calls, ticks) m' (calls', ticks') ∧
      m'.Made s r₀ job mode x (x.nextAttempt since result fixed) := by
  have hopen : x.isComplete = false := (Session.isComplete_eq_false_iff x).2 hrun
  obtain ⟨m₁, hentered, hj₁, hr₁⟩ := exists_conducts (ρ := ρ) (s := s) (e := (calls, ticks)) clock hj rfl
    (.entered hr.handle rfl hopen rfl)
  rw [← hr₁] at hr
  unfold Replies.attempt at ha
  dsimp only at ha
  split at ha
  next ho =>
    cases ha
    obtain ⟨m', hconducts, hmade⟩ := conducts_recorded (e := (calls, ticks + 1)) clock hr hj₁ rfl (.concluded ho rfl)
    exact ⟨2, _, _, m', by omega, hentered.trans hconducts, hmade⟩
  next hno =>
    have hfailed : (ρ.run (calls ++ [.run x.language x.currentCode])).succeeded = false := by
      simpa using fun hs ↦ hno (.inl hs)
    have hlt : x.nextIndex < x.maxAttempts := Nat.not_le.1 fun hle ↦ hno (.inr hle)
    cases ha
    obtain ⟨m₂, hasked, hj₂, hr₂⟩ := exists_conducts (ρ := ρ) (s := s) (e := (calls, ticks + 1)) clock hj₁ rfl
      (.askedPrimary hfailed (by simp) fun place index max since hp ↦ by cases hp; exact hlt)
    obtain ⟨k, ticks', m', hk, hconducts, hmade⟩ := conducts_fix (hr₂ ▸ hr) hj₂ hfailed rfl clock (ticks + 2)
    exact ⟨k + 2, _, ticks', m', by omega, hentered.trans (hasked.trans hconducts), hmade⟩

end Attempts

section Drivers

variable {ρ : Replies} {calls calls' : List Call} {result : ExecutionResult} {fixed : Option Fix}

/-- A batch job between attempts plays its session to the end, with at most five actions for each attempt. -/
theorem conducts_batch {n : Nat} (hx : x.Playable) (hn : x.room = n) (hr : r₀.Adds m.registry (sole .batch x []))
    (hj : m.jobs[job]? = some ⟨.batch, .between r₀.handles.length⟩) (ρ : Replies) (s : Settings)
    (clock : Nat → Time.Stamp) (calls : List Call) (ticks : Nat) :
    ∃ k y now calls' ticks' m', k ≤ 5 * n + 1 ∧ Conducts ρ clock s job k m (calls, ticks) m' (calls', ticks') ∧
      ρ.Plays s x calls y calls' ∧ m'.jobs[job]? = some ⟨.batch, .answered (.ok (.summary (y.summary now)))⟩ ∧
      ∃ r, r₀.Adds r (sole .batch y []) ∧ m'.registry = r.evict y.id := by
  induction n using Nat.strong_induction_on generalizing m x calls ticks with
  | _ n ih =>
    rcases hx.running_or_complete with hc | ⟨hrun, hroom⟩
    · obtain ⟨m', hconducts, hj', hr'⟩ := exists_conducts (ρ := ρ) (s := s) (e := (calls, ticks)) clock hj rfl
        (.summedUp hr.handle hc)
      exact ⟨1, x, _, _, _, m', by omega, hconducts, .done hc, hj', _, hr, hr'⟩
    · have hopen : x.isComplete = false := (Session.isComplete_eq_false_iff x).2 hrun
      obtain ⟨m₁, hqueued, hj₁, hr₁⟩ := exists_conducts (ρ := ρ) (s := s) (e := (calls, ticks)) clock hj rfl
        (.queued hr.handle hopen)
      rcases ha : ρ.attempt s x calls with ⟨result, fixed, calls₁⟩
      obtain ⟨k₁, since, ticks₁, m₂, hk₁, hattempt, hj₂, now, hr₂⟩ :=
        conducts_attempt (hr₁ ▸ adds_enqueued hr job) hj₁ hrun ha clock (ticks + 1)
      have hroom' := Session.room_extend hroom s.config.retry.onNoFix (x.nextAttempt since result fixed) now
      obtain ⟨k₂, y, now', calls', ticks', m', hk₂, hrest, hplays, hj', hr'⟩ :=
        ih _ (by omega) (Replies.playable_extend hrun ha _ since now) rfl hr₂ hj₂ calls₁ ticks₁
      exact ⟨k₂ + k₁ + 1, y, now', calls', ticks', m', by omega, hqueued.trans (hattempt.trans hrest),
        .attempt since now hrun ha hplays, hj', hr'⟩

section Steps

variable (hr : r₀.Adds m.registry (sole .paced x [])) (hn : SessionKey.normalize x.id = .ok x.id)
include hr hn

theorem step_waits (s : Settings) (now : Time.Stamp) (bits : Nat) :
    ∃ m', m.step s now (.arrive (.step x.id) bits) = m' ∧
      m'.jobs[m.jobs.length]? = some ⟨.paced, .waiting r₀.handles.length⟩ ∧
      r₀.Adds m'.registry (sole .paced x [m.jobs.length]) :=
  ⟨_, step_step (hr.lookup hn) s now bits, by simp [arrived], adds_enqueued hr m.jobs.length⟩

theorem serve_step (hrun : x.state = .running) (ha : ρ.attempt s x calls = (result, fixed, calls'))
    (clock : Nat → Time.Stamp) (ticks bits : Nat) :
    ∃ since now ticks' m', ((ρ.outside clock).serve s m (.step x.id) bits).run (calls, ticks) =
        ((some (.ok (.attempt (x.nextAttempt since result fixed))), m'), calls', ticks') ∧
      r₀.Adds m'.registry
        (sole .paced (x.extend s.config.retry.onNoFix (x.nextAttempt since result fixed) now) []) := by
  obtain ⟨m₁, harrived, hj₁, hr₁⟩ := step_waits hr hn s (clock ticks) bits
  obtain ⟨k, since, ticks', m', hk, hconducts, hj', now, hr'⟩ := conducts_attempt hr₁ hj₁ hrun ha clock (ticks + 1)
  have hpatience : 4 ≤ Outside.patience := by decide
  exact ⟨since, now, ticks', m', serve_of_conducts (by omega) (harrived ▸ hconducts) hj', hr'⟩

theorem serve_step_over (hx : x.Playable) (hc : x.isComplete = true) (ρ : Replies) (s : Settings)
    (clock : Nat → Time.Stamp) (calls : List Call) (ticks bits : Nat) :
    ∃ ticks' m', ((ρ.outside clock).serve s m (.step x.id) bits).run (calls, ticks) =
        ((some (.error (.alreadyComplete x.id)), m'), calls, ticks') ∧
      r₀.Adds m'.registry (sole .paced x []) := by
  obtain ⟨m₁, harrived, hj₁, hr₁⟩ := step_waits hr hn s (clock ticks) bits
  obtain ⟨m', hconducts, hj', hr'⟩ := exists_conducts (ρ := ρ) (s := s) (e := (calls, ticks + 1)) clock hj₁ rfl
    (.refused hr₁.handle rfl (.inl hc))
  have hrefusal : (x.finish .cancelled (clock (ticks + 1))).refusal = .alreadyComplete x.id := by
    rw [Session.finish_of_complete _ _ hc, Session.refusal, if_neg hx.kept]
  have hserved := serve_of_conducts (e := (calls, ticks)) (by decide) (harrived ▸ hconducts) hj'
  refine ⟨ticks + 2, m', ?_, hr' ▸ adds_left hr₁ hc _⟩
  rw [← hrefusal]
  exact hserved

theorem stepAll_plays {fuel : Nat} (hx : x.Playable) (hroom : x.room < fuel) (ρ : Replies) (s : Settings)
    (clock : Nat → Time.Stamp) (calls : List Call) (ticks : Nat) :
    ∃ y attempts calls' ticks' m', ((ρ.outside clock).stepAll s x.id fuel m).run (calls, ticks) =
        ((attempts, some (.error (.alreadyComplete x.id)), m'), calls', ticks') ∧
      ρ.Plays s x calls y calls' ∧ y.attempts = x.attempts ++ attempts ∧
      r₀.Adds m'.registry (sole .paced y []) := by
  induction fuel generalizing m x calls ticks with
  | zero => omega
  | succ fuel ih =>
    rcases hx.running_or_complete with hc | ⟨hrun, hsome⟩
    · obtain ⟨ticks', m', hserved, hr'⟩ := serve_step_over hr hn hx hc ρ s clock calls ticks 0
      refine ⟨x, [], calls, ticks', m', ?_, .done hc, by simp, hr'⟩
      rw [Outside.stepAll, StateT.run_bind, hserved]
      rfl
    · rcases ha : ρ.attempt s x calls with ⟨result, fixed, calls₁⟩
      obtain ⟨since, now, ticks₁, m₁, hserved, hr₁⟩ := serve_step hr hn hrun ha clock ticks 0
      have hroom' := Session.room_extend hsome s.config.retry.onNoFix (x.nextAttempt since result fixed) now
      have hid := Session.extend_id s.config.retry.onNoFix x (x.nextAttempt since result fixed) now
      obtain ⟨y, attempts, calls', ticks', m', hrest, hplays, hattempts, hr'⟩ :=
        ih hr₁ (by rw [hid]; exact hn) (Replies.playable_extend hrun ha _ since now) (by omega) calls₁ ticks₁
      rw [hid] at hrest
      refine ⟨y, x.nextAttempt since result fixed :: attempts, calls', ticks', m', ?_,
        .attempt since now hrun ha hplays, ?_, hr'⟩
      · have hserved' : ((ρ.outside clock).serve s m (.step x.id) 0).run (calls, ticks) =
            pure ((some (.ok (.attempt (x.nextAttempt since result fixed))), m₁), calls₁, ticks₁) := hserved
        have hrest' : ((ρ.outside clock).stepAll s x.id fuel m₁).run (calls₁, ticks₁) =
            pure ((attempts, some (.error (.alreadyComplete x.id)), m'), calls', ticks') := hrest
        simp only [Outside.stepAll, StateT.run_bind, hserved', hrest', pure_bind]
        rfl
      · rw [hattempts, Session.extend_attempts, List.append_assoc, List.singleton_append]

theorem serve_delete (hf : r₀.Filed) (ρ : Replies) (s : Settings) (clock : Nat → Time.Stamp) (bits : Nat)
    (e : List Call × Nat) :
    ∃ m' e', ((ρ.outside clock).serve s m (.delete x.id) bits).run e =
        ((some (.ok (.summary (x.summary (clock e.2)))), m'), e') ∧
      m'.registry.registered = r₀.registered.filter (·.id ≠ x.id) := by
  obtain ⟨r, hremoved, hreg⟩ := hr.remove hf hn
  have hdeleted : m.step s (clock e.2) (.arrive (.delete x.id) bits) =
      m.arrived .paced (.answered (.ok (.summary (x.summary (clock e.2))))) r m.calls :=
    step_delete hremoved hr.handle s (clock e.2) bits
  have hj : (m.step s (clock e.2) (.arrive (.delete x.id) bits)).jobs[m.jobs.length]? =
      some ⟨.paced, .answered (.ok (.summary (x.summary (clock e.2))))⟩ := by
    rw [hdeleted]
    simp [arrived]
  refine ⟨_, _, serve_answered hj, ?_⟩
  rw [hdeleted]
  exact hreg

end Steps

end Drivers

section Agreement

/-- A batch request is answered with a session that is over, and not registered any more. -/
def BatchRun (ρ : Replies) (clock : Nat → Time.Stamp) (s : Settings) (m : Machine) (request : Request) (bits : Nat)
    (e : List Call × Nat) (calls' : List Call) (sum : Summary) : Prop :=
  ∃ m' ticks', ((ρ.outside clock).serve s m request bits).run e = ((some (.ok (.summary sum)), m'), calls', ticks') ∧
    sum.isComplete = true ∧ m'.registry.registered = m.registry.registered.filter (·.id ≠ SessionKey.ofBits bits)

/-- A paced session is opened, and each step makes one attempt until the session is over. It stays registered then,
until it is deleted. -/
structure PacedRun (ρ : Replies) (clock : Nat → Time.Stamp) (s : Settings) (m : Machine) (request : Request)
    (bits max : Nat) (e : List Call × Nat) (calls' : List Call) (attempts : List Attempt) (h : Handle) (m' : Machine) :
    Prop where
  driven : ∃ opening m₁ e₁ ticks',
    ((ρ.outside clock).serve s m request bits).run e = ((some (.ok (.summary opening)), m₁), e₁) ∧
      ((ρ.outside clock).stepAll s (SessionKey.ofBits bits) (max + 1) m₁).run e₁ =
        ((attempts, some (.error (.alreadyComplete (SessionKey.ofBits bits))), m'), calls', ticks')
  named : h.id = SessionKey.ofBits bits ∧ h.mode = .paced
  recorded : h.session.attempts = attempts
  registered : m'.registry.registered = m.registry.registered.filter (·.id ≠ SessionKey.ofBits bits) ++ [h]
  deleted : ∀ bits' e', ∃ m'' e'', ((ρ.outside clock).serve s m' (.delete (SessionKey.ofBits bits)) bits').run e' =
      ((some (.ok (.summary (h.session.summary (clock e'.2)))), m''), e'') ∧
    m''.registry.registered = m.registry.registered.filter (·.id ≠ SessionKey.ofBits bits)

section Opened

variable (hm : m.Kept s) (hmin : 1 ≤ max) (hmax : max ≤ maxAttemptsCeiling)
include hm hmin hmax

theorem step_adds (ho : Opens s request mode none language code max)
    (hroom : mode = .paced → m.registry.pacedCount < s.config.retry.maxSessions) (now : Time.Stamp) (bits : Nat) :
    (m.step s now (.arrive request bits)).jobs[m.jobs.length]? = some ⟨mode, openedPhase m.registry.handles.length
        ((Session.start (SessionKey.ofBits bits) language code max now).summary now) mode⟩ ∧
      m.registry.Adds (m.step s now (.arrive request bits)).registry
        (sole mode (.start (SessionKey.ofBits bits) language code max now) []) := by
  rw [hm.step_filed hmin hmax ho (fun hpaced ↦ Nat.ne_of_lt (hroom hpaced)) now bits]
  exact ⟨by simp [arrived], Registry.adds_filed ..⟩

theorem exists_batchRun (ho : Opens s request .batch none language code max) (ρ : Replies) (clock : Nat → Time.Stamp)
    (bits : Nat) (calls : List Call) (ticks : Nat) :
    ∃ y now calls' since, ρ.Plays s (.start (SessionKey.ofBits bits) language code max since) calls y calls' ∧
      BatchRun ρ clock s m request bits (calls, ticks) calls' (y.summary now) := by
  obtain ⟨hj, hr⟩ := step_adds hm hmin hmax ho (by simp) (clock ticks) bits
  obtain ⟨k, y, now, calls', ticks', m', hk, hconducts, hplays, hj', r, hr', hevicted⟩ :=
    conducts_batch (.start _ language code hmin _) rfl hr hj ρ s clock calls (ticks + 1)
  have hpatience : 5 * max + 1 ≤ Outside.patience := by
    unfold Outside.patience
    omega
  have hid : y.id = SessionKey.ofBits bits := hplays.id
  have hn : SessionKey.normalize y.id = .ok y.id := by rw [hid, SessionKey.normalize_ofBits]
  refine ⟨y, now, calls', clock ticks, hplays, m', ticks', serve_of_conducts (hk.trans hpatience) hconducts hj',
    hplays.complete, ?_⟩
  rw [hevicted, ← hid]
  exact hr'.evict hm.filed hn

theorem exists_pacedRun (ho : Opens s request .paced none language code max)
    (hroom : m.registry.pacedCount < s.config.retry.maxSessions) (ρ : Replies) (clock : Nat → Time.Stamp)
    (bits : Nat) (calls : List Call) (ticks : Nat) :
    ∃ y calls' attempts m' since, ρ.Plays s (.start (SessionKey.ofBits bits) language code max since) calls y calls' ∧
      PacedRun ρ clock s m request bits max (calls, ticks) calls' attempts (sole .paced y []) m' := by
  obtain ⟨hj, hr⟩ := step_adds hm hmin hmax ho (fun _ ↦ hroom) (clock ticks) bits
  have hopened := serve_answered (ρ := ρ) (e := (calls, ticks)) hj
  obtain ⟨y, attempts, calls', ticks', m', hsteps, hplays, hattempts, hr'⟩ := stepAll_plays hr
    (SessionKey.normalize_ofBits bits) (.start _ language code hmin _) (Nat.lt_succ_self max) ρ s clock calls
    (ticks + 1)
  have hid : y.id = SessionKey.ofBits bits := hplays.id
  have hn : SessionKey.normalize y.id = .ok y.id := by rw [hid, SessionKey.normalize_ofBits]
  refine ⟨y, calls', attempts, m', clock ticks, hplays, ⟨_, _, _, ticks', hopened, hsteps⟩, ⟨hid, rfl⟩, hattempts,
    ?_, ?_⟩
  · rw [← hid]
    exact hr'.registered hm.filed
  · intro bits' e'
    rw [← hid]
    exact serve_delete hr' hn hm.filed ρ s clock bits' e'

end Opened

/-- A batch request and paced steps of a session alike make the same calls and come to the same end. -/
theorem paced_agrees_with_batch (s : Settings) (before : List (Time.Stamp × Action)) (ρ : Replies)
    (clock clock' : Nat → Time.Stamp) (calls : List Call) (ticks ticks' bits bits' max : Nat) (language : Language)
    (code : String) (request request' : Request) (hmin : 1 ≤ max) (hmax : max ≤ maxAttemptsCeiling)
    (ho : Opens s request .batch none language code max) (ho' : Opens s request' .paced none language code max)
    (hroom : ((start s).run s before).registry.pacedCount < s.config.retry.maxSessions) :
    let m := (start s).run s before
    ∃ calls' sum attempts h m', BatchRun ρ clock s m request bits (calls, ticks) calls' sum ∧
      PacedRun ρ clock' s m request' bits' max (calls, ticks') calls' attempts h m' ∧
      attempts.length = sum.totalAttempts ∧ ∀ now, sum.untimed = (h.session.summary now).untimed := by
  intro m
  have hm := kept s before
  obtain ⟨x, now, calls₁, since, hplays, hbatch⟩ := exists_batchRun hm hmin hmax ho ρ clock bits calls ticks
  obtain ⟨y, calls₂, attempts, m', since', hplays', hpaced⟩ :=
    exists_pacedRun hm hmin hmax ho' hroom ρ clock' bits' calls ticks'
  obtain ⟨rfl, hxy⟩ := hplays.agree hplays' rfl
  have hsame (now' : Time.Stamp) : (x.summary now).untimed = (y.summary now').untimed :=
    Session.summary_untimed hxy now now'
  refine ⟨calls₁, _, attempts, _, m', hbatch, hpaced, ?_, hsame⟩
  calc attempts.length = y.attempts.length := by rw [← hpaced.recorded]; rfl
    _ = (y.summary now).untimed.totalAttempts := rfl
    _ = (x.summary now).untimed.totalAttempts := by rw [hsame now]
    _ = (x.summary now).totalAttempts := rfl

def mends : Replies where
  run calls :=
    if calls.length = 1 then .runtimeFailure "" "SyntaxError: '(' was never closed" (some 1) else .success "1" ""
  ask _ := .proposal ⟨"The bracket was open.", "print(1)", none⟩

theorem paced_agrees_with_batch_mends :
    let m := (start .plain).run .plain mingling
    let clock (n : Nat) : Time.Stamp := ⟨n, 0⟩
    1 ≤ 5 ∧ 5 ≤ maxAttemptsCeiling ∧ m.registry.pacedCount < Settings.plain.config.retry.maxSessions ∧
      ∃ calls' sum attempts h m',
        BatchRun mends clock .plain m (.runChecked .python "print(1" 5 none) 8 ([], 0) calls' sum ∧
        PacedRun mends clock .plain m (.startChecked .python "print(1" 5) 9 5 ([], 9) calls' attempts h m' ∧
        calls'.length = 3 ∧ attempts.length = 2 := by
  intro m clock
  have hroom : m.registry.pacedCount < Settings.plain.config.retry.maxSessions := by decide +kernel
  let ending := ((mends.outside clock).serve .plain m (.runChecked .python "print(1" 5 none) 8).run ([], 0)
  have hending : (ending.1.1.bind fun answer ↦ (Phase.answered answer).summary?).map Summary.totalAttempts = some 2 ∧
      ending.2.1.length = 3 := by decide +kernel
  obtain ⟨calls', sum, attempts, h, m', hbatch, hpaced, hcount, -⟩ :=
    paced_agrees_with_batch .plain mingling mends clock clock [] 0 9 8 9 5 .python "print(1" _ _ (by decide) (by decide)
      (.runChecked ..) (.startChecked ..) hroom
  obtain ⟨m₁, ticks₁, hserved, -⟩ := id hbatch
  have hsame : ending = ((some (.ok (.summary sum)), m₁), calls', ticks₁) := hserved
  rw [hsame] at hending
  exact ⟨by decide, by decide, hroom, calls', sum, attempts, h, m', hbatch, hpaced, hending.2,
    hcount.trans (Option.some.inj hending.1)⟩

end Agreement

end Machine

end CodeRepair

import CodeRepair.Proofs.Service.Playing
import CodeRepair.Proofs.Service.Cancellation

/-!
The record of a session as the outcome of its turns. Against an outside whose replies follow from what it is asked,
a turn makes of a session what its code and its token say, so the record follows from how the session was opened and
from whether its token was cancelled at each of its turns, whatever else a service does in between.
-/
namespace CodeRepair

/-- The call whose reply a job waits for. -/
def Phase.call? : Phase → Option Call
  | .running _ language code => some (.run language code)
  | .askingPrimary f => some (.ask .primary f.language f.code f.result.errorSignal)
  | .askingFallback f _ => some (.ask .fallback f.language f.code f.result.errorSignal)
  | _ => none

/-- An outside whose replies follow from what it is asked. -/
structure Reactions where
  run : Language → String → ExecutionResult
  ask : Role → Language → String → String → Answered

/-- A session as it was opened, without its id and its times. -/
def Session.opening (x : Session) : Session :=
  (Session.start "" x.language x.initialCode x.maxAttempts default).untimed

namespace Reactions

variable {ρ : Reactions} {s : Settings} {x y : Session}

def Gives (ρ : Reactions) (m : Machine) : Action → Prop
  | .ran job result =>
    ∀ language code, (m.phase? job).bind Phase.call? = some (.run language code) → result = ρ.run language code
  | .answered job answer =>
    ∀ role language code error, (m.phase? job).bind Phase.call? = some (.ask role language code error) →
      answer = ρ.ask role language code error
  | _ => True

/-- Every reply in a sequence of actions is the one that the outside gives. -/
def Answers (ρ : Reactions) (s : Settings) : Machine → List (Time.Stamp × Action) → Prop
  | _, [] => True
  | m, e :: events => ρ.Gives m e.2 ∧ ρ.Answers s (m.step s e.1 e.2) events

theorem answers_append (m : Machine) (events events' : List (Time.Stamp × Action)) :
    ρ.Answers s m (events ++ events') ↔ ρ.Answers s m events ∧ ρ.Answers s (m.run s events) events' := by
  induction events generalizing m with
  | nil => simp [Answers, Machine.run]
  | cons e events ih =>
    rw [List.cons_append, Answers, Answers, ih, and_assoc]
    rfl

/-- What comes of the next attempt of a session: its result, and its fix when one is asked for. -/
def attempt (ρ : Reactions) (s : Settings) (x : Session) : ExecutionResult × Option Fix :=
  let result := ρ.run x.language x.currentCode
  let fix := (s.pipeline.fix fun role ↦ ρ.ask role x.language x.currentCode result.errorSignal).1
  (result, if result.succeeded ∨ x.maxAttempts ≤ x.nextIndex then none else some fix)

/-- What one turn makes of a session whose token is cancelled or not. -/
def turn (ρ : Reactions) (s : Settings) (x : Session) (cancelled : Bool) : Session :=
  if x.isComplete then x
  else if cancelled then x.finish .cancelled default
  else x.extend s.config.retry.onNoFix (x.nextAttempt default (ρ.attempt s x).1 (ρ.attempt s x).2) default

theorem attempt_untimed (ρ : Reactions) (s : Settings) (x : Session) : ρ.attempt s x.untimed = ρ.attempt s x := by
  have hindex : x.untimed.nextIndex = x.nextIndex := by simp [Session.untimed, Session.nextIndex]
  unfold attempt
  rw [hindex]
  rfl

theorem attempt_of_failed {result : ExecutionResult} {fix : Fix} (hresult : result = ρ.run x.language x.currentCode)
    (hfailed : result.succeeded = false) (hleft : x.nextIndex < x.maxAttempts)
    (hfix : (s.pipeline.fix fun role ↦ ρ.ask role x.language x.currentCode result.errorSignal).1 = fix) :
    ρ.attempt s x = (result, some fix) := by
  have hasked : ¬ (result.succeeded = true ∨ x.maxAttempts ≤ x.nextIndex) := by
    simp [hfailed]
    omega
  rw [attempt, ← hresult, if_neg hasked, ← hfix]

theorem turn_of_complete (hx : x.isComplete = true) (cancelled : Bool) : ρ.turn s x cancelled = x := by
  rw [turn, if_pos hx]

theorem turn_cancelled (hx : x.state = .running) (now : Time.Stamp) :
    (x.finish .cancelled now).untimed = (ρ.turn s x true).untimed := by
  have hopen := (Session.isComplete_eq_false_iff x).2 hx
  simp [turn, hopen, Session.finish_of_running _ _ hx, Session.untimed]

theorem turn_attempt (hx : x.state = .running) (since now : Time.Stamp) :
    (x.extend s.config.retry.onNoFix (x.nextAttempt since (ρ.attempt s x).1 (ρ.attempt s x).2) now).untimed =
      (ρ.turn s x false).untimed := by
  have hopen := (Session.isComplete_eq_false_iff x).2 hx
  simp only [turn, hopen, Bool.false_eq_true, if_false]
  rw [Session.extend_untimed _ since now _ _ hx, Session.extend_untimed _ default default _ _ hx]

theorem untimed_untimed (x : Session) : x.untimed.untimed = x.untimed := by
  simp [Session.untimed, Attempt.untimed]

theorem turn_untimed (ρ : Reactions) (s : Settings) (x : Session) (cancelled : Bool) :
    (ρ.turn s x.untimed cancelled).untimed = (ρ.turn s x cancelled).untimed := by
  by_cases hx : x.state = .running
  · have hx' : x.untimed.state = .running := hx
    cases cancelled with
    | true =>
      rw [← turn_cancelled hx default, ← turn_cancelled hx' default, Session.finish_of_running _ _ hx,
        Session.finish_of_running _ _ hx']
      simp [Session.untimed, Attempt.untimed]
    | false =>
      rw [← turn_attempt hx default default, ← turn_attempt hx' default default, attempt_untimed,
        Session.extend_untimed _ _ _ _ _ hx, Session.extend_untimed _ _ _ _ _ hx', untimed_untimed]
  · have hc := (Session.isComplete_iff x).2 hx
    have hc' : x.untimed.isComplete = true := hc
    rw [turn_of_complete hc, turn_of_complete hc', untimed_untimed]

theorem turn_congr (hxy : x.untimed = y.untimed) (cancelled : Bool) :
    (ρ.turn s x cancelled).untimed = (ρ.turn s y cancelled).untimed := by
  rw [← turn_untimed ρ s x, hxy, turn_untimed]

def turns (ρ : Reactions) (s : Settings) (x : Session) (cancelled : List Bool) : Session :=
  cancelled.foldl (ρ.turn s) x

theorem turns_append (ρ : Reactions) (s : Settings) (x : Session) (before after : List Bool) :
    ρ.turns s x (before ++ after) = ρ.turns s (ρ.turns s x before) after := List.foldl_append

theorem turns_congr (hxy : x.untimed = y.untimed) (cancelled : List Bool) :
    (ρ.turns s x cancelled).untimed = (ρ.turns s y cancelled).untimed := by
  induction cancelled generalizing x y with
  | nil => exact hxy
  | cons c rest ih => exact ih (turn_congr hxy c)

theorem opening_congr (hxy : x.untimed = y.untimed) : x.opening = y.opening := by
  have hopening (z : Session) : z.opening = z.untimed.opening := rfl
  rw [hopening x, hopening y, hxy]

theorem opening_turn (ρ : Reactions) (s : Settings) (x : Session) (cancelled : Bool) :
    (ρ.turn s x cancelled).opening = x.opening := by
  unfold turn
  split
  · rfl
  · split
    · unfold Session.finish
      split <;> rfl
    · obtain ⟨code, st, finishedAt, he⟩ := Session.extend_frame s.config.retry.onNoFix x
        (x.nextAttempt default (ρ.attempt s x).1 (ρ.attempt s x).2) default
      rw [he]
      rfl

theorem opening_turns (ρ : Reactions) (s : Settings) (x : Session) (cancelled : List Bool) :
    (ρ.turns s x cancelled).opening = x.opening := by
  induction cancelled generalizing x with
  | nil => rfl
  | cons c rest ih => exact (ih _).trans (opening_turn ρ s x c)

end Reactions

namespace Machine

variable {ρ : Reactions} {s : Settings} {m m' : Machine} {now : Time.Stamp} {place job : Nat} {h h' : Handle}
  {x : Course} {mode : Mode} {phase phase' : Phase} {r : Registry} {calls : List (Option Nat × Call)}
  {action : Action} {cancelled : List Bool}

/-- Whether an action that leads from one machine to another ends a turn at a place, and whether the token was
cancelled when that turn began. A turn without an attempt begins and ends at once. -/
def over? (m m' : Machine) (place : Nat) : Option Bool :=
  match m.registry.handles[place]?, m'.registry.handles[place]? with
  | some h, some h' =>
    if h'.turns.length < h.turns.length then
      some (h'.session.attempts.length = h.session.attempts.length && m.isCancelled h)
    else none
  | _, _ => none

def turnsOver (s : Settings) (place : Nat) : Machine → List (Time.Stamp × Action) → List Bool
  | _, [] => []
  | m, e :: events =>
    let m' := m.step s e.1 e.2
    (m.over? m' place).toList ++ turnsOver s place m' events

theorem turnsOver_append (s : Settings) (place : Nat) (m : Machine) (events events' : List (Time.Stamp × Action)) :
    turnsOver s place m (events ++ events') =
      turnsOver s place m events ++ turnsOver s place (m.run s events) events' := by
  induction events generalizing m with
  | nil => rfl
  | cons e events ih =>
    rw [List.cons_append, turnsOver, turnsOver, ih, List.append_assoc]
    rfl

theorem turnsOver_singleton (s : Settings) (place : Nat) (m : Machine) (e : Time.Stamp × Action) :
    turnsOver s place m [e] = (m.over? (m.step s e.1 e.2) place).toList := List.append_nil _

theorem over?_eq_none (hh : m.registry.handles[place]? = some h) (hh' : m'.registry.handles[place]? = some h')
    (hle : h.turns.length ≤ h'.turns.length) : m.over? m' place = none := by
  simp only [over?, hh, hh', if_neg (Nat.not_lt.2 hle)]

theorem over?_of_kept (hh : m.registry.handles[place]? = some h) (hh' : m'.registry.handles[place]? = some h')
    (hlt : h'.turns.length < h.turns.length) (ha : h'.session.attempts = h.session.attempts) :
    m.over? m' place = some (m.isCancelled h) := by
  simp [over?, hh, hh', hlt, ha]

theorem over?_of_landed {a : Attempt} (hh : m.registry.handles[place]? = some h)
    (hh' : m'.registry.handles[place]? = some h') (hlt : h'.turns.length < h.turns.length)
    (ha : h'.session.attempts = h.session.attempts ++ [a]) : m.over? m' place = some false := by
  simp [over?, hh, hh', hlt, ha]

theorem length_erase_head {turns : List Nat} (hh : turns.head? = some job) :
    (turns.erase job).length < turns.length := by
  rw [erase_head hh, List.length_tail]
  cases turns with
  | nil => cases hh
  | cons => simp

/-- What a job has heard is what the outside says. -/
def Heard (ρ : Reactions) (s : Settings) : Phase → Prop
  | .askingPrimary f => f.result = ρ.run f.language f.code
  | .askingFallback f problem => f.result = ρ.run f.language f.code ∧
    s.pipeline.afterPrimary (ρ.ask .primary f.language f.code f.result.errorSignal) = .askFallback problem
  | _ => True

theorem Progress.heard (hp : Progress s m now job action mode phase phase' r calls) (hj : m.phase? job = some phase)
    (hg : ρ.Gives m action) (hheard : Heard ρ s phase) : Heard ρ s phase' := by
  cases hp with
  | askedPrimary => exact hg _ _ (by rw [hj]; rfl)
  | askedFallback ha =>
    have hanswer := hg _ _ _ _ (by rw [hj]; rfl)
    exact ⟨hheard, hanswer ▸ ha⟩
  | concluded | settled => cases mode <;> trivial
  | _ => trivial

def AllHeard (ρ : Reactions) (s : Settings) (m : Machine) : Prop :=
  ∀ j phase, m.phase? j = some phase → Heard ρ s phase

theorem AllHeard.step (hm : m.AllHeard ρ s) (now : Time.Stamp) (hg : ρ.Gives m action) :
    (m.step s now action).AllHeard ρ s := by
  have hs := step_transition s m now action
  generalize m.step s now action = m' at hs ⊢
  intro j phase hj
  cases hs with
  | ignored | callerCancelled => exact hm j phase hj
  | @arrived request bits phase' r calls ha =>
    by_cases he : j = m.jobs.length
    · subst he
      rw [phase?_arrived_self] at hj; cases hj
      cases ha with
      | @opened _ mode => cases mode <;> trivial
      | _ => trivial
    · rw [phase?_arrived_ne m _ _ _ _ he] at hj
      exact hm j phase hj
  | @moved _ job mode phase₀ phase' r calls hj' hp =>
    by_cases he : j = job
    · subst he
      rw [phase?_moved_self hj'] at hj; cases hj
      exact hp.heard (phase?_of_job hj') hg (hm j _ (phase?_of_job hj'))
    · rw [phase?_moved_ne m _ _ _ he] at hj
      exact hm j phase hj

/-- The turn at a place that ends, if one does, makes of the session what the outside has it make. -/
def Turns (ρ : Reactions) (s : Settings) (m m' : Machine) (place : Nat) (h : Handle) : Prop :=
  ∃ h', m'.registry.handles[place]? = some h' ∧
    h'.session.untimed = (ρ.turns s h.session (m.over? m' place).toList).untimed

theorem Turns.idle (hh : m.registry.handles[place]? = some h) (hh' : m'.registry.handles[place]? = some h')
    (hle : h.turns.length ≤ h'.turns.length) (hsame : h'.session = h.session) : Turns ρ s m m' place h := by
  refine ⟨h', hh', ?_⟩
  rw [over?_eq_none hh hh' hle, hsame]
  rfl

theorem Turns.stay (hh : m.registry.handles[place]? = some h) (hk : m.registry.KeepsAt m'.registry place) :
    Turns ρ s m m' place h := by
  rcases hk.of_some hh with hh' | hh'
  · exact .idle hh hh' (Nat.le_refl _) rfl
  · exact .idle hh hh' (Nat.le_refl _) rfl

theorem Turns.join (hh : m.registry.handles[place]? = some h)
    (hr : m'.registry = (m.enqueue place job).registry) : Turns ρ s m m' place h := by
  have hh' : m'.registry.handles[place]? = some { h with turns := h.turns ++ [job] } := by
    rw [hr]
    exact Registry.modify_self _ hh
  exact .idle hh hh' (by simp) rfl

theorem Turns.over {cancelled : Bool} (hh' : m'.registry.handles[place]? = some h')
    (hover : m.over? m' place = some cancelled)
    (hturn : h'.session.untimed = (ρ.turn s h.session cancelled).untimed) : Turns ρ s m m' place h := by
  refine ⟨h', hh', ?_⟩
  rw [hover]
  exact hturn

theorem Turns.turnAway (hh : m.registry.handles[place]? = some h) (hhead : h.turns.head? = some job)
    (ho : h.session.isComplete = true ∨ m.isCancelled h = true)
    (hk : (m.left now place job).KeepsAt m'.registry place) : Turns ρ s m m' place h := by
  have hattempts : (h.session.finish .cancelled now).attempts = h.session.attempts := by
    unfold Session.finish
    split <;> rfl
  have hsession : (h.session.finish .cancelled now).untimed = (ρ.turn s h.session (m.isCancelled h)).untimed := by
    cases hc : h.session.isComplete with
    | true => rw [Reactions.turn_of_complete hc, Session.finish_of_complete .cancelled now hc]
    | false =>
      have hx : m.isCancelled h = true := ho.resolve_left (by simp [hc])
      rw [hx]
      exact Reactions.turn_cancelled ((Session.isComplete_eq_false_iff _).1 hc) now
  have hlt := length_erase_head hhead
  rcases hk.of_some (Registry.modify_self _ hh) with hh' | hh'
  · exact .over hh' (over?_of_kept hh hh' hlt hattempts) hsession
  · exact .over hh' (over?_of_kept hh hh' hlt hattempts) hsession

theorem Turns.land (hh : m.registry.handles[place]? = some h) (hhead : h.turns.head? = some job)
    (hrun : h.session.state = .running) {since : Time.Stamp} {result : ExecutionResult} {fix : Option Fix}
    (hreply : ρ.attempt s h.session = (result, fix)) {a : Attempt} (ha : a = h.session.nextAttempt since result fix)
    (hr : m'.registry = m.recorded s now place job a) : Turns ρ s m m' place h := by
  have hh' : m'.registry.handles[place]? =
      some { h with session := h.session.extend s.config.retry.onNoFix a now, turns := h.turns.erase job } := by
    rw [hr]
    exact Registry.modify_self _ hh
  have hattempts := Session.extend_attempts s.config.retry.onNoFix h.session a now
  refine .over hh' (over?_of_landed hh hh' (length_erase_head hhead) hattempts) ?_
  rw [← Reactions.turn_attempt hrun since now, hreply, ha]

theorem Traces.running_of_flight (ht : m.Traces place h x) (hx : x.Sound s) {f : Flight} (hf : x.flight = some f) :
    h.session.state = .running ∧ f.Fits s h.session := by
  rw [ht.session]
  exact hx.flight f hf

theorem Settles.fix_eq {answer : Answered} {f : Failure} {fix : Fix} (hs : Settles s answer phase f fix)
    (hj : m.phase? job = some phase) (hg : ρ.Gives m (.answered job answer)) (hheard : Heard ρ s phase) :
    f.result = ρ.run f.language f.code ∧
      (s.pipeline.fix fun role ↦ ρ.ask role f.language f.code f.result.errorSignal).1 = fix := by
  cases hs with
  | byPrimary ha =>
    have hanswer : answer = ρ.ask .primary f.language f.code f.result.errorSignal := hg _ _ _ _ (by rw [hj]; rfl)
    refine ⟨hheard, ?_⟩
    rw [Pipeline.fix, ← hanswer, ha]
  | byFallback f problem =>
    have hanswer : answer = ρ.ask .fallback f.language f.code f.result.errorSignal := hg _ _ _ _ (by rw [hj]; rfl)
    obtain ⟨hresult, hproblem⟩ := hheard
    refine ⟨hresult, ?_⟩
    rw [Pipeline.fix, hproblem, ← hanswer]

theorem Traces.turns_here (ht : m.Traces place h x) (hx : x.Sound s) (hj : m.jobs[job]? = some ⟨mode, phase⟩)
    (hp : Progress s m now job action mode phase phase' r calls)
    (hhere : phase.turn? = some place ∨ phase'.turn? = some place) (hg : ρ.Gives m action)
    (hheard : Heard ρ s phase) : Turns ρ s m (m.moved job phase' r calls) place h := by
  have hphase := phase?_of_job hj
  have hh := ht.handle
  cases hp with
  | summedUp | executed | passed => simp at hhere
  | debugged hs hf => cases hs <;> simp [hf] at hhere
  | @queued _ q =>
    obtain rfl : q = place := by simpa using hhere
    exact .join hh rfl
  | @refused q _ hh' hhead ho =>
    obtain rfl : q = place := by simpa using hhere
    rw [hh] at hh'; cases hh'
    exact .turnAway hh hhead ho (.inl rfl)
  | @ended q _ hh' hhead ho =>
    obtain rfl : q = place := by simpa using hhere
    rw [hh] at hh'; cases hh'
    exact .turnAway hh hhead ho (Registry.keepsAt_evict _ _ _)
  | entered | askedPrimary | askedFallback => exact .stay hh (.inl rfl)
  | @concluded _ q _ _ _ language code result _ ho ha =>
    obtain rfl : q = place := by simpa [turn?_recordedPhase] using hhere
    obtain ⟨since, hf, hp, hhead⟩ := ht.flight_of_running hphase rfl
    obtain ⟨hrun, -⟩ := ht.running_of_flight hx hf
    rw [← ht.session] at hp
    cases hp
    have hresult : result = ρ.run h.session.language h.session.currentCode := hg _ _ (by rw [hphase]; rfl)
    refine .land hh hhead hrun ?_ ha rfl
    rw [Reactions.attempt, ← hresult, if_pos ho]
  | @settled _ answer _ g fix q _ _ _ a hs hpurpose ha =>
    have hplace : g.purpose.place? = some q := by rw [hpurpose]; rfl
    have hu : phase.underWay? = some q := hs.underWay?.trans hplace
    obtain rfl : q = place := by simpa [turn?_recordedPhase, Phase.turn?_of_underWay? hu] using hhere
    obtain ⟨hresult, hfix⟩ := hs.fix_eq hphase hg hheard
    obtain ⟨f, since, result, hf, -, rfl, hfailed, hleft, hhead⟩ := ht.flight_of_settles hx hphase hs hplace
    obtain ⟨hrun, -⟩ := ht.running_of_flight hx hf
    rw [← ht.session] at hresult hfix hleft hpurpose ha
    cases hpurpose
    have hnext := ha.trans (h.session.nextAttempt_of_failed _ hfailed _).symm
    exact .land hh hhead hrun (Reactions.attempt_of_failed hresult hfailed hleft hfix) hnext rfl

/-- Every action ends a turn of a session as the outside has it, or leaves the session as it is. -/
theorem Traces.turns_step (ht : m.Traces place h x) (hx : x.Sound s) (hm : m.AllHeard ρ s) (hg : ρ.Gives m action)
    (now : Time.Stamp) : Turns ρ s m (m.step s now action) place h := by
  have hh := ht.handle
  have hs := step_transition s m now action
  generalize m.step s now action = m' at hs ⊢
  cases hs with
  | ignored | callerCancelled => exact .stay hh (.inl rfl)
  | arrived ha =>
    cases ha with
    | replied | launched => exact .stay hh (.inl rfl)
    | opened _ _ _ hi =>
      obtain ⟨key, -, -, -, rfl⟩ := Registry.insert_eq_ok hi
      exact .stay hh (.inl ((Places.concat_of_some _ hh).trans hh.symm))
    | @queued _ q =>
      by_cases hq : q = place
      · subst hq
        exact .join hh rfl
      · exact .stay hh (.inl (Registry.modify_ne _ _ hq))
    | removed hr => exact .stay hh (Registry.keepsAt_remove hr place)
  | @moved _ job mode phase phase' r calls hj hp =>
    by_cases hhere : phase.turn? = some place ∨ phase'.turn? = some place
    · exact ht.turns_here hx hj hp hhere hg (hm job phase (phase?_of_job hj))
    · obtain ⟨hout, hout'⟩ := not_or.1 hhere
      exact .stay hh (hp.elsewhere hout hout').1

theorem allHeard_start (ρ : Reactions) (s : Settings) : (start s).AllHeard ρ s := fun j phase hj ↦ by
  simp [phase?, start] at hj

theorem allHeard (events : List (Time.Stamp × Action)) (ha : ρ.Answers s (start s) events) :
    ((start s).run s events).AllHeard ρ s := by
  induction events using List.reverseRecOn with
  | nil => exact allHeard_start ρ s
  | append_singleton events e ih =>
    obtain ⟨ha, hg, -⟩ := (Reactions.answers_append _ _ _).1 ha
    rw [run_append]
    exact (ih ha).step e.1 hg

theorem opened_by (hm : m.InRange) (hnone : m.registry.handles[place]? = none)
    (hh : (m.step s now action).registry.handles[place]? = some h) :
    ∃ request bits mode caller language code max r, action = .arrive request bits ∧
      Opens s request mode caller language code max ∧ 1 ≤ max ∧ max ≤ maxAttemptsCeiling ∧
      m.registry.insert (.start (SessionKey.ofBits bits) language code max now) mode caller = .ok (place, r) ∧
      h = ⟨SessionKey.ofBits bits, mode, .start (SessionKey.ofBits bits) language code max now, false, caller, []⟩ := by
  have absurd' {r : Registry} (hl : r.handles.length = m.registry.handles.length)
      (hh : r.handles[place]? = some h) : False := by
    rw [Places.eq_none_of_length_eq hl.symm hnone] at hh
    cases hh
  have hs := step_transition s m now action
  generalize m.step s now action = m' at hs hh
  cases hs with
  | ignored | callerCancelled => exact (absurd' rfl hh).elim
  | moved _ hp => exact (absurd' (hp.inRange hm.entries).2 hh).elim
  | arrived ha =>
    cases ha with
    | replied | launched => exact (absurd' rfl hh).elim
    | queued => exact (absurd' (Registry.length_modify _ _ _) hh).elim
    | removed hr => exact (absurd' (hm.entries.remove hr).2 hh).elim
    | opened ho hmin hmax hi =>
      obtain ⟨key, -, -, rfl, rfl⟩ := Registry.insert_eq_ok hi
      rcases Places.concat_eq_some hh with hh | ⟨rfl, rfl⟩
      · rw [hnone] at hh; cases hh
      · exact ⟨_, _, _, _, _, _, _, _, rfl, ho, hmin, hmax, hi, rfl⟩

/-- The record of the session at a place, if there is one, is the outcome of these turns. -/
def Outcome (ρ : Reactions) (s : Settings) (m : Machine) (place : Nat) (cancelled : List Bool) : Prop :=
  match m.registry.handles[place]? with
  | none => cancelled = []
  | some h => h.session.untimed = (ρ.turns s h.session.opening cancelled).untimed

theorem Outcome.step (ho : Outcome ρ s m place cancelled) (hm : m.Tracked s) (hheard : m.AllHeard ρ s)
    (hg : ρ.Gives m action) (now : Time.Stamp) :
    Outcome ρ s (m.step s now action) place (cancelled ++ (m.over? (m.step s now action) place).toList) := by
  unfold Outcome at ho ⊢
  cases hh : m.registry.handles[place]? with
  | some h =>
    rw [hh] at ho
    obtain ⟨x, hx, ht⟩ := hm.courses place h hh
    obtain ⟨h', hh', hturn⟩ := ht.turns_step hx.sound hheard hg now
    rw [hh']
    have hopening : h'.session.opening = h.session.opening := by
      rw [Reactions.opening_congr hturn, Reactions.opening_turns]
    change h'.session.untimed = _
    rw [hturn, hopening, Reactions.turns_append]
    exact Reactions.turns_congr ho _
  | none =>
    rw [hh] at ho
    have hover : m.over? (m.step s now action) place = none := by simp [over?, hh]
    rw [ho, hover]
    cases hh' : (m.step s now action).registry.handles[place]? with
    | none => rfl
    | some h' =>
      obtain ⟨_, _, _, _, _, _, _, _, -, -, -, -, -, rfl⟩ := opened_by hm.inRange hh hh'
      rfl

/-- Whatever else a service does, the record of a session is the outcome of its turns. -/
theorem outcome_of_turns (events : List (Time.Stamp × Action)) (ha : ρ.Answers s (start s) events) (place : Nat) :
    Outcome ρ s ((start s).run s events) place (turnsOver s place (start s) events) := by
  induction events using List.reverseRecOn with
  | nil => rfl
  | append_singleton events e ih =>
    obtain ⟨ha, hg, -⟩ := (Reactions.answers_append _ _ _).1 ha
    rw [run_append, turnsOver_append, turnsOver_singleton]
    exact (ih ha).step (tracked s events) (allHeard events ha) hg e.1

end Machine

end CodeRepair

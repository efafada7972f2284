import CodeRepair.Proofs.Service.Cancellation

/-!
Which calls are made for a session. The calls of a session follow from its log and from what the primary answered:
one run for each attempt, one question to the primary for each fix, and one to the fallback after each answer of the
primary that could not be used.
-/
namespace CodeRepair

/-- Whether an answer can be used: it is a proposal whose code is neither blank nor blocked. -/
def Answered.isUsable (gate : SafetyGate) : Answered → Bool
  | .proposal p => !Text.blank p.fixedCode && (gate.check p.fixedCode).safe
  | _ => false

namespace Call

def isRun : Call → Bool
  | .run .. => true
  | .ask .. => false

def asksPrimary : Call → Bool
  | .ask .primary .. => true
  | _ => false

end Call

/-- The calls that belong to a log, given what the primary answered to each question. -/
inductive Transcript (s : Settings) (language : Language) : List Attempt → List Answered → List Call → Prop
  | nil : Transcript s language [] [] []
  | unasked {a : Attempt} {rest : List Attempt} {answers : List Answered} {calls : List Call} : a.fix = none →
      Transcript s language rest answers calls →
      Transcript s language (a :: rest) answers (.run language a.codeUsed :: calls)
  | asked {a : Attempt} {fix : Fix} {answer : Answered} {rest : List Attempt} {answers : List Answered}
      {calls : List Call} : a.fix = some fix → Transcript s language rest answers calls →
      Transcript s language (a :: rest) (answer :: answers)
        (.run language a.codeUsed :: .ask .primary language a.codeUsed a.result.errorSignal ::
          (if s.fallback.isSome ∧ answer.isUsable s.gate = false then
            [.ask .fallback language a.codeUsed a.result.errorSignal]
          else []) ++ calls)

namespace Transcript

variable {s : Settings} {language : Language} {as bs : List Attempt} {xs ys : List Answered} {cs ds : List Call}

theorem append (h : Transcript s language as xs cs) (h' : Transcript s language bs ys ds) :
    Transcript s language (as ++ bs) (xs ++ ys) (cs ++ ds) := by
  induction h with
  | nil => exact h'
  | unasked hf _ ih => exact .unasked hf ih
  | @asked a fix answer rest answers calls hf _ ih =>
    have hasked := @Transcript.asked s language a fix answer _ _ _ hf ih
    simpa only [List.cons_append, List.append_assoc] using hasked

theorem one_unasked {a : Attempt} (hf : a.fix = none) : Transcript s language [a] [] (a.calls s language) := by
  have h : Transcript s language [a] [] [.run language a.codeUsed] := .unasked hf .nil
  simpa only [Attempt.calls, hf] using h

theorem one_asked {a : Attempt} {fix : Fix} {answer : Answered} (hf : a.fix = some fix)
    (hp : s.fallback.isSome = true → (fix.provenance = .primary ↔ answer.isUsable s.gate = true)) :
    Transcript s language [a] [answer] (a.calls s language) := by
  have h : Transcript s language [a] [answer] _ := .asked hf .nil
  have hcond : (fix.provenance ≠ .primary ∧ s.fallback.isSome = true) ↔
      (s.fallback.isSome = true ∧ answer.isUsable s.gate = false) := by
    constructor
    · intro hboth
      have hiff := hp hboth.2
      exact ⟨hboth.2, by simpa [hiff] using hboth.1⟩
    · intro hboth
      have hiff := hp hboth.1
      exact ⟨by simp [hiff, hboth.2], hboth.1⟩
  simp only [Attempt.calls, hf, hcond]
  simpa only [List.append_nil] using h

end Transcript

namespace Pipeline

variable {p : Pipeline} {provider : ProviderInfo} {answer : Answered} {problem : String} {fix : Fix}

theorem isUsable_of_judge {q : Proposal} (h : p.judge provider answer = .ok q) : answer.isUsable p.gate = true := by
  obtain ⟨r, rfl, -, -, -, hblank, hsafe⟩ := judge_eq_ok h
  simp [Answered.isUsable, hblank, hsafe]

theorem not_isUsable_of_judge (h : p.judge provider answer = .error problem) : answer.isUsable p.gate = false := by
  cases answer with
  | failed | timedOut => rfl
  | proposal r =>
    simp only [judge] at h
    split at h
    next hblank => simp [Answered.isUsable, hblank]
    next hblank =>
      split at h
      next hsafe =>
        have hunsafe : (p.gate.check r.fixedCode).safe = false := by simpa using hsafe
        simp [Answered.isUsable, hunsafe]
      next => split at h <;> cases h

theorem provenance_of_settled (h : p.afterPrimary answer = .settled fix) :
    fix.provenance = .primary ↔ answer.isUsable p.gate = true := by
  simp only [afterPrimary] at h
  split at h
  next q hq =>
    cases h
    simp [Fix.ofProposal, isUsable_of_judge hq]
  next problem hq =>
    have hun := not_isUsable_of_judge hq
    split at h
    · cases h
    · cases h
      simp [Fix.absent, hun]

end Pipeline

namespace ExecutionResult

theorem not_blank_append {s t : String} (h : Text.blank s = false) : Text.blank (s ++ t) = false := by
  simp only [Text.blank, Text.isAllBlank, String.toList_append, List.all_append] at h ⊢
  rw [h, Bool.false_and]

theorem errorSignal_not_blank (r : ExecutionResult) : Text.blank r.errorSignal = false := by
  unfold errorSignal
  split
  next hb => simpa using hb
  next =>
    cases r.failureReason with
    | none => decide
    | some reason =>
      cases reason with
      | compilationFailed | timedOut => decide
      | internal message =>
        have hprefix : Text.blank "internal error: " = false := by decide
        exact not_blank_append hprefix

end ExecutionResult

theorem Course.Step.language {s : Settings} {now : Time.Stamp} {x y : Course} (hs : Course.Step s now x y) :
    y.session.language = x.session.language := by
  cases hs with
  | giveUp _ hr _ => rw [Session.finish_of_running _ _ hr]
  | land => exact Session.extend_language _ _ _ _
  | _ => rfl

def Phase.asksPrimary? : Phase → Option Nat
  | .askingPrimary f => f.purpose.place?
  | _ => none

namespace Machine

def hears (m : Machine) (place : Nat) : Action → List Answered
  | .answered job answer => if (m.phase? job).bind Phase.asksPrimary? = some place then [answer] else []
  | _ => []

/-- The primary's answers for the session at a place that a sequence of actions brings, in order. -/
def heard (s : Settings) (place : Nat) (m : Machine) : List (Time.Stamp × Action) → List Answered
  | [] => []
  | e :: events => m.hears place e.2 ++ heard s place (m.step s e.1 e.2) events

variable {s : Settings} {m m' : Machine} {now : Time.Stamp} {place job : Nat} {h h' : Handle} {x y : Course}
  {action : Action}

theorem heard_append (s : Settings) (place : Nat) (m : Machine) (events events' : List (Time.Stamp × Action)) :
    heard s place m (events ++ events') = heard s place m events ++ heard s place (m.run s events) events' := by
  induction events generalizing m with
  | nil => rfl
  | cons e events ih =>
    have hrest := ih (m.step s e.1 e.2)
    simp only [List.cons_append, heard, hrest, List.append_assoc]
    rfl

theorem asksPrimary?_eq_some {phase : Phase} (h : phase.asksPrimary? = some place) :
    ∃ f, phase = .askingPrimary f ∧ f.purpose.place? = some place := by
  cases phase with
  | askingPrimary f => exact ⟨f, rfl, h⟩
  | _ => cases h

theorem hears_eq_cons {answer : Answered} {rest : List Answered} (hh : m.hears place action = answer :: rest) :
    rest = [] ∧ ∃ job f, action = .answered job answer ∧ m.phase? job = some (.askingPrimary f) ∧
      f.purpose.place? = some place := by
  cases action with
  | answered job answer' =>
    simp only [hears] at hh
    split at hh
    next hasks =>
      obtain ⟨phase, hj, hp⟩ := Option.bind_eq_some_iff.1 hasks
      obtain ⟨f, rfl, hf⟩ := asksPrimary?_eq_some hp
      cases hh
      exact ⟨rfl, job, f, rfl, hj, hf⟩
    · cases hh
  | _ => cases hh

theorem hears_answered {f : Failure} (hj : m.phase? job = some (.askingPrimary f)) (hp : f.purpose.place? = some place)
    (answer : Answered) : m.hears place (.answered job answer) = [answer] := by
  simp [hears, hj, Phase.asksPrimary?, hp]

theorem Traces.hears_eq_nil (ht : m.Traces place h x)
    (hf : ∀ since result, x.flight ≠ some (.askingPrimary since result)) (action : Action) :
    m.hears place action = [] := by
  cases hh : m.hears place action with
  | nil => rfl
  | cons answer rest =>
    obtain ⟨-, job, f, -, hj, hp⟩ := hears_eq_cons hh
    obtain ⟨since, result, hflight, -⟩ := ht.flight_of_askingPrimary hj hp
    exact absurd hflight (hf since result)

theorem Traces.hears_of_head (ht : m.Traces place h x) (hhead : h.turns.head? = some job) {f : Failure}
    (hj : m.phase? job = some (.askingPrimary f)) (ha : action.job? = some job → m.Idle action) :
    m.hears place action = [] := by
  cases hh : m.hears place action with
  | nil => rfl
  | cons answer rest =>
    obtain ⟨-, job', f', rfl, hj', hp'⟩ := hears_eq_cons hh
    obtain ⟨-, -, -, hhead'⟩ := ht.flight_of_underWay hj' hp'
    rw [hhead] at hhead'
    cases hhead'
    exact absurd hj ((ha rfl).1 f)

theorem Traces.attempts_of_recorded {m' : Machine} {a : Attempt} (ht : m.Traces place h x)
    (ht' : m'.Traces place h' y) (hr : m'.registry = m.recorded s now place job a) :
    y.session.attempts = x.session.attempts ++ [a] := by
  have hmodified : (m.recorded s now place job a).handles[place]? = some _ := Registry.modify_self _ ht.handle
  have hhandle := ht'.handle
  rw [hr, hmodified] at hhandle
  cases hhandle
  rw [← ht'.session, ← ht.session]
  exact Session.extend_attempts _ _ _ _

/-- An answer of the primary takes the attempt that waits for it on to the fallback or to its end. Nothing else brings
it on. -/
theorem Traces.answer_step {since : Time.Stamp} {result : ExecutionResult} (ht : m.Traces place h x) (hx : x.Sound s)
    (hf : x.flight = some (.askingPrimary since result)) (ht' : (m.step s now action).Traces place h' y)
    (hs : Course.Step s now x y) :
    (m.hears place action = [] ∧ y.flight = x.flight ∧ y.session = x.session) ∨
      (∃ answer problem, m.hears place action = [answer] ∧ s.pipeline.afterPrimary answer = .askFallback problem ∧
        y.flight = some (.askingFallback since result problem) ∧ y.session = x.session) ∨
      ∃ answer fix, m.hears place action = [answer] ∧ s.pipeline.afterPrimary answer = .settled fix ∧
        y.flight = none ∧
        y.session.attempts = x.session.attempts ++ [x.session.nextAttempt since result (some fix)] := by
  obtain ⟨job, hhead, hu⟩ := exists_underWay ht (by simp [hf])
  obtain ⟨phase, hj, hp⟩ := Option.bind_eq_some_iff.1 hu
  obtain ⟨f, hflight, hphase, -⟩ := ht.flight_of_underWay hj hp
  rw [hf] at hflight
  cases hflight
  subst hphase
  obtain ⟨mode, hjob⟩ := phase?_eq_some.1 hj
  have hfailed := (hx.flight _ hf).2.1
  have hnext := hs.of_askingPrimary hf
  rcases job_step hjob s now action with ⟨hidle, hjob'⟩ | ⟨phase', r, calls, hprogress, hjob', he⟩
  · have hsilent := ht.hears_of_head hhead hj hidle
    obtain ⟨since', result', hflight, -⟩ := ht'.flight_of_askingPrimary (phase?_of_job hjob') hp
    rcases hnext with hsame | ⟨problem, hasked, -⟩ | hlanded
    · exact .inl ⟨hsilent, hsame⟩
    · rw [hasked] at hflight; cases hflight
    · rw [hlanded] at hflight; cases hflight
  · cases hprogress with
    | debugged hset hnone =>
      cases hset
      cases hnone
    | @askedFallback _ answer _ problem ha =>
      have hhears := hears_answered hj rfl answer
      obtain ⟨since', result', hflight, -⟩ := ht'.flight_of_askingFallback (phase?_of_job hjob') hp
      rcases hnext with ⟨hsame, -⟩ | ⟨problem', hasked, hsession⟩ | hlanded
      · rw [hsame, hf] at hflight; cases hflight
      · rw [hasked] at hflight
        cases hflight
        exact .inr (.inl ⟨answer, problem, hhears, ha, hasked, hsession⟩)
      · rw [hlanded] at hflight; cases hflight
    | @settled _ answer _ f fix _ _ _ _ a hset hpurpose ha =>
      cases hset with
      | byPrimary hsettled =>
        cases hpurpose
        have hhears := hears_answered hj rfl answer
        have hattempt := ha.trans (x.session.nextAttempt_of_failed _ hfailed _).symm
        have hrecorded := ht.attempts_of_recorded ht' (congrArg Machine.registry he)
        have hlonger : y.session ≠ x.session := by
          intro hsame
          simp [hsame] at hrecorded
        refine .inr (.inr ⟨answer, fix, hhears, hsettled, ?_, hattempt ▸ hrecorded⟩)
        rcases hnext with ⟨-, hsame⟩ | ⟨_, -, hsame⟩ | hlanded
        · exact absurd hsame hlonger
        · exact absurd hsame hlonger
        · exact hlanded

/-- What was heard for an attempt that is under way: an answer that could not be used, once the fallback is asked. -/
def Pending (s : Settings) : Option Flight → List Answered → Prop
  | some (.askingFallback ..), answers => ∃ answer, answers = [answer] ∧ answer.isUsable s.gate = false
  | _, answers => answers = []

/-- What was heard for a session goes with its log and with the attempt under way. -/
def Conversed (s : Settings) (x : Course) (answers : List Answered) : Prop :=
  ∃ settled pending, answers = settled ++ pending ∧ Pending s x.flight pending ∧
    Transcript s x.session.language x.session.attempts settled
      (x.session.attempts.flatMap (Attempt.calls s x.session.language))

namespace Conversed

variable {answers : List Answered}

theorem opened (hattempts : x.session.attempts = []) (hf : x.flight = none) : Conversed s x [] := by
  refine ⟨[], [], rfl, ?_, ?_⟩
  · rw [hf]; rfl
  · rw [hattempts]; exact .nil

theorem land {new : List Answered} {a : Attempt} (hc : Conversed s x answers)
    (hone : ∀ pending, Pending s x.flight pending →
      Transcript s x.session.language [a] (pending ++ new) (a.calls s x.session.language))
    (hf : y.flight = none) (hadd : y.session.attempts = x.session.attempts ++ [a])
    (hl : y.session.language = x.session.language) : Conversed s y (answers ++ new) := by
  obtain ⟨settled, pending, rfl, hpending, hscript⟩ := hc
  refine ⟨settled ++ (pending ++ new), [], by simp, ?_, ?_⟩
  · rw [hf]; rfl
  · rw [hadd, hl, List.flatMap_append]
    have happended := hscript.append (hone pending hpending)
    simpa using happended

theorem silent (hc : Conversed s x answers) (hx : x.Sound s) (hs : Course.Step s now x y)
    (hf : ∀ since result, x.flight ≠ some (.askingPrimary since result)) : Conversed s y answers := by
  have keep (hsame : y.session.attempts = x.session.attempts) (hl : y.session.language = x.session.language)
      (hp : ∀ pending, Pending s x.flight pending → Pending s y.flight pending) : Conversed s y answers := by
    obtain ⟨settled, pending, he, hpending, hscript⟩ := hc
    refine ⟨settled, pending, he, hp pending hpending, ?_⟩
    rw [hsame, hl]
    exact hscript
  cases hs with
  | stay | cancel => exact keep rfl rfl fun _ hp ↦ hp
  | giveUp hn hr =>
    rw [Session.finish_of_running _ _ hr] at keep ⊢
    exact keep rfl rfl fun _ hp ↦ hp
  | enter hn =>
    refine keep rfl rfl fun pending hp ↦ ?_
    rw [hn] at hp
    exact hp
  | askPrimary hn =>
    refine keep rfl rfl fun pending hp ↦ ?_
    rw [hn] at hp
    exact hp
  | askFallback hn => exact absurd hn (hf _ _)
  | @land f since result fix hn he =>
    obtain ⟨hrun, hfits⟩ := hx.flight f hn
    have hadd := Session.extend_attempts s.config.retry.onNoFix x.session (x.session.nextAttempt since result fix) now
    have hl := Session.extend_language s.config.retry.onNoFix x.session (x.session.nextAttempt since result fix) now
    rw [← List.append_nil answers]
    refine hc.land (fun pending hp ↦ ?_) rfl hadd hl
    rw [hn] at hp
    cases he with
    | unasked =>
      have hnil : pending = [] := hp
      subst hnil
      exact .one_unasked rfl
    | byPrimary => exact absurd hn (hf _ _)
    | @byFallback _ _ problem answer =>
      obtain ⟨heard, rfl, hunusable⟩ := hp
      refine .one_asked rfl fun _ ↦ ?_
      have hnot := s.pipeline.afterFallback_provenance problem answer
      simp [hnot, hunusable]

theorem step (hc : Conversed s x answers) (ht : m.Traces place h x) (hx : x.Sound s)
    (ht' : (m.step s now action).Traces place h' y) (hs : Course.Step s now x y) :
    Conversed s y (answers ++ m.hears place action) := by
  by_cases hf : ∃ since result, x.flight = some (.askingPrimary since result)
  · obtain ⟨since, result, hf⟩ := hf
    have hl : y.session.language = x.session.language := hs.language
    rcases ht.answer_step hx hf ht' hs with
      ⟨hsilent, hflight, hsame⟩ | ⟨answer, problem, hhears, hask, hflight, hsame⟩ |
      ⟨answer, fix, hhears, hsettled, hflight, hadd⟩
    · obtain ⟨settled, pending, he, hpending, hscript⟩ := hc
      rw [hsilent, List.append_nil]
      refine ⟨settled, pending, he, hflight ▸ hpending, ?_⟩
      rw [hsame]
      exact hscript
    · obtain ⟨settled, pending, he, hpending, hscript⟩ := hc
      rw [hf] at hpending
      have hnil : pending = [] := hpending
      refine ⟨settled, [answer], by rw [hhears, he, hnil, List.append_nil], ?_, ?_⟩
      · rw [hflight]
        exact ⟨answer, rfl, Pipeline.not_isUsable_of_judge (Pipeline.afterPrimary_eq_askFallback hask).2⟩
      · rw [hsame]
        exact hscript
    · rw [hhears]
      refine hc.land (fun pending hp ↦ ?_) hflight hadd hl
      rw [hf] at hp
      have hnil : pending = [] := hp
      subst hnil
      exact .one_asked rfl fun _ ↦ Pipeline.provenance_of_settled hsettled
  · have hf' : ∀ since result, x.flight ≠ some (.askingPrimary since result) :=
      fun since result hn ↦ hf ⟨since, result, hn⟩
    rw [ht.hears_eq_nil hf', List.append_nil]
    exact hc.silent hx hs hf'

end Conversed

theorem opened_handle (hnone : m.registry.handles[place]? = none)
    (hh : (m.step s now action).registry.handles[place]? = some h) (hm : m.InRange) :
    h.session.attempts = [] ∧ h.turns = [] := by
  have hs := step_transition s m now action
  generalize m.step s now action = m' at hs hh
  cases hs with
  | ignored | callerCancelled => rw [hnone] at hh; cases hh
  | moved _ hp =>
    have hgone := Places.eq_none_of_length_eq (hp.inRange hm.entries).2.symm hnone
    rw [moved, hgone] at hh
    cases hh
  | arrived ha =>
    cases ha with
    | replied | launched => rw [arrived, hnone] at hh; cases hh
    | queued =>
      rw [arrived, enqueue, Places.eq_none_of_length_eq (Registry.length_modify _ _ _).symm hnone] at hh
      cases hh
    | removed hr _ =>
      rw [arrived, Places.eq_none_of_length_eq (hm.entries.remove hr).2.symm hnone] at hh
      cases hh
    | opened _ _ _ hi =>
      obtain ⟨key, -, -, -, rfl⟩ := Registry.insert_eq_ok hi
      rcases Places.concat_eq_some hh with hold | ⟨-, rfl⟩
      · rw [hnone] at hold
        cases hold
      · exact ⟨rfl, rfl⟩

theorem InRange.hears_eq_nil (hm : m.InRange) (hnone : m.registry.handles[place]? = none) (action : Action) :
    m.hears place action = [] := by
  cases hh : m.hears place action with
  | nil => rfl
  | cons answer rest =>
    obtain ⟨-, job, f, -, hj, hp⟩ := hears_eq_cons hh
    have hlt := hm.phases job _ place hj hp
    have hge := List.getElem?_eq_none_iff.1 hnone
    omega

/-- Whatever has happened, what the primary answered goes with the log of each session. -/
theorem conversed (s : Settings) (events : List (Time.Stamp × Action)) (place : Nat) :
    (((start s).run s events).registry.handles[place]? = none → heard s place (start s) events = []) ∧
      ∀ h, ((start s).run s events).registry.handles[place]? = some h →
        ∃ x, Course.Reached s x ∧ ((start s).run s events).Traces place h x ∧
          Conversed s x (heard s place (start s) events) := by
  induction events using List.reverseRecOn with
  | nil => exact ⟨fun _ ↦ rfl, fun h hh ↦ by simp [run, start, Registry.empty] at hh⟩
  | append_singleton events e ih =>
    obtain ⟨hsilent, hsessions⟩ := ih
    have htracked := tracked s events
    have hheard : heard s place (start s) (events ++ [e]) =
        heard s place (start s) events ++ ((start s).run s events).hears place e.2 := by
      rw [heard_append]
      simp [heard]
    rw [run_append, hheard]
    generalize (start s).run s events = m at hsilent hsessions htracked ⊢
    cases hm : m.registry.handles[place]? with
    | none =>
      have hnothing := htracked.inRange.hears_eq_nil hm e.2
      rw [hsilent hm, hnothing]
      refine ⟨fun _ ↦ rfl, fun h hh ↦ ?_⟩
      obtain ⟨x, hx, ht⟩ := (htracked.step e.1 e.2).courses place h hh
      obtain ⟨hattempts, hturns⟩ := opened_handle hm hh htracked.inRange
      refine ⟨x, hx, ht, .opened (ht.session ▸ hattempts) ?_⟩
      cases hf : x.flight with
      | none => rfl
      | some f =>
        obtain ⟨job, hhead, -⟩ := exists_underWay ht (by simp [hf])
        rw [hturns] at hhead
        cases hhead
    | some h =>
      obtain ⟨x, hx, ht, hc⟩ := hsessions h hm
      obtain ⟨h', y, ht', hs, -⟩ := ht.step hx.sound e.1 e.2
      refine ⟨fun hgone ↦ ?_, fun h'' hh'' ↦ ?_⟩
      · have hhandle := ht'.handle
        rw [show m.run s [e] = m.step s e.1 e.2 from rfl, hhandle] at hgone
        cases hgone
      · have hhandle := ht'.handle
        rw [show m.run s [e] = m.step s e.1 e.2 from rfl, hhandle] at hh''
        cases hh''
        exact ⟨y, hx.step hs, ht', hc.step ht hx.sound ht' hs⟩

/-- Whoever is asked for a fix is shown what the failed run left to show. -/
def Signalled (calls : List (Option Nat × Call)) : Prop :=
  ∀ place role language code error, (place, .ask role language code error) ∈ calls →
    ∃ result : ExecutionResult, error = result.errorSignal

theorem Signalled.log {calls : List (Option Nat × Call)} (hc : Signalled calls) (q : Option Nat) {call : Call}
    (h : ∀ role language code error, call = .ask role language code error →
      ∃ result : ExecutionResult, error = result.errorSignal) : Signalled (calls ++ [(q, call)]) := by
  intro place role language code error hmem
  rcases List.mem_append.1 hmem with hold | hnew
  · exact hc place role language code error hold
  · have hcall := (Prod.mk.inj (List.mem_singleton.1 hnew)).2
    exact h role language code error hcall.symm

theorem Signalled.step (hc : Signalled m.calls) (s : Settings) (now : Time.Stamp) (action : Action) :
    Signalled (m.step s now action).calls := by
  have hs := step_transition s m now action
  generalize m.step s now action = m' at hs ⊢
  cases hs with
  | ignored | callerCancelled => exact hc
  | arrived ha =>
    cases ha with
    | launched => exact hc.log none (by simp)
    | _ => exact hc
  | moved _ hp =>
    cases hp with
    | entered => exact hc.log _ (by simp)
    | askedPrimary | askedFallback =>
      refine hc.log _ fun role language code error he ↦ ?_
      cases he
      exact ⟨_, rfl⟩
    | _ => exact hc

theorem signalled (s : Settings) (events : List (Time.Stamp × Action)) : Signalled ((start s).run s events).calls := by
  refine run_invariant (P := fun m ↦ Signalled m.calls) events ?_ fun _ hc e _ ↦ hc.step s e.1 e.2
  intro place role language code error hmem
  simp [start] at hmem

theorem Signalled.not_blank (hc : Signalled m.calls) {role : Role} {language : Language} {code error : String}
    (h : .ask role language code error ∈ m.callsAt place) : Text.blank error = false := by
  obtain ⟨c, hmem, hsame⟩ := List.mem_filterMap.1 h
  split at hsame
  · have hasked : (c.1, .ask role language code error) ∈ m.calls := by
      rw [← Option.some.inj hsame]
      exact hmem
    obtain ⟨result, rfl⟩ := hc c.1 role language code error hasked
    exact result.errorSignal_not_blank
  · cases hsame

end Machine

namespace Session

variable {policy : NoFixPolicy} {x : Session}

theorem countP_runs (s : Settings) (language : Language) (attempts : List Attempt) :
    (attempts.flatMap (Attempt.calls s language)).countP Call.isRun = attempts.length := by
  induction attempts with
  | nil => rfl
  | cons a rest ih =>
    have hone : (a.calls s language).countP Call.isRun = 1 := by
      unfold Attempt.calls
      cases a.fix with
      | none => rfl
      | some fix =>
        dsimp only
        split <;> rfl
    rw [List.flatMap_cons, List.countP_append, ih, hone, List.length_cons]
    omega

theorem countP_primary (s : Settings) (language : Language) (attempts : List Attempt) :
    (attempts.flatMap (Attempt.calls s language)).countP Call.asksPrimary =
      attempts.countP fun a ↦ a.fix.isSome := by
  induction attempts with
  | nil => rfl
  | cons a rest ih =>
    have hone : (a.calls s language).countP Call.asksPrimary = if a.fix.isSome then 1 else 0 := by
      unfold Attempt.calls
      cases a.fix with
      | none => rfl
      | some fix =>
        dsimp only
        split <;> rfl
    rw [List.flatMap_cons, List.countP_append, ih, hone, List.countP_cons]
    omega

theorem Sound.fix_of_earlier (h : x.Sound policy) : ∀ a ∈ x.attempts.dropLast, a.fix.isSome = true := by
  intro a ha
  obtain ⟨-, fix, hfix, -⟩ := Attempt.outcome_eq_none_iff.1 (h.earlier a ha)
  simp [hfix]

theorem Sound.countP_fix_of_decided (h : x.Sound policy) (hs : x.state = .succeeded ∨ x.state = .exhausted) :
    (x.attempts.countP fun a ↦ a.fix.isSome) + 1 = x.attempts.length := by
  obtain ⟨init, a, hx, ho⟩ := h.last_decides (by rcases hs with hs | hs <;> simp [hs])
    (by rcases hs with hs | hs <;> simp [hs])
  have hinit : (init.countP fun b ↦ b.fix.isSome) = init.length := by
    refine List.countP_eq_length.2 fun b hb ↦ h.fix_of_earlier b ?_
    rw [hx, List.dropLast_concat]
    exact hb
  have hlast : a.fix = none := by
    rcases hs with hs | hs
    · have hsucceeded := Attempt.outcome_eq_succeeded_iff.1 (hs ▸ ho)
      have hfix := (h.faithful a (by simp [hx])).fix
      rw [hsucceeded] at hfix
      simpa using hfix
    · exact (Attempt.outcome_eq_exhausted_iff.1 (hs ▸ ho)).2
  rw [hx, List.countP_append, hinit, List.length_append]
  simp [hlast]

theorem Sound.countP_fix_of_stopped (h : x.Sound policy) (hs : x.state = .aborted ∨ x.state = .cancelled) :
    (x.attempts.countP fun a ↦ a.fix.isSome) = x.attempts.length := by
  refine List.countP_eq_length.2 fun a ha ↦ ?_
  rcases hs with hs | hs
  · obtain ⟨-, -, b, fix, hlast, -, hfix, -⟩ := h.aborted hs
    obtain ⟨init, hx⟩ := List.getLast?_eq_some_iff.1 hlast
    rw [hx, List.mem_append, List.mem_singleton] at ha
    rcases ha with ha | rfl
    · refine h.fix_of_earlier a ?_
      rw [hx, List.dropLast_concat]
      exact ha
    · simp [hfix]
  · exact ((h.unfinished (.inr hs)).2 a ha).2

end Session

def Settings.backed : Settings := { Settings.plain with fallback := some ⟨"openrouter", "trinity", false⟩ }

namespace Machine

/-- The calls of a batch job that was answered with a summary: a run for each attempt, and a question to the primary
for each attempt that another one could follow. -/
structure Accounted (calls : List Call) (sum : Summary) : Prop where
  complete : sum.state ≠ .running
  runs : calls.countP Call.isRun = sum.totalAttempts
  decided : sum.state = .succeeded ∨ sum.state = .exhausted →
    calls.countP Call.asksPrimary + 1 = sum.totalAttempts
  stopped : sum.state = .aborted ∨ sum.state = .cancelled → calls.countP Call.asksPrimary = sum.totalAttempts

variable {s : Settings} {m : Machine} {place job : Nat} {h : Handle} {x : Course}

theorem accounted_of_over {policy : NoFixPolicy} {z : Session} (hz : z.Sound policy) (hover : z.state ≠ .running)
    (s : Settings) (now : Time.Stamp) :
    Accounted (z.attempts.flatMap (Attempt.calls s z.language)) (z.summary now) := by
  refine ⟨hover, Session.countP_runs _ _ _, fun hs ↦ ?_, fun hs ↦ ?_⟩
  · rw [Session.countP_primary]
    exact hz.countP_fix_of_decided hs
  · rw [Session.countP_primary]
    exact hz.countP_fix_of_stopped hs

theorem summedUp_of_drives {before after : List (Time.Stamp × Action)} {sum : Summary}
    (hd : ((start s).run s before).Drives place job)
    (hh : ((start s).run s (before ++ after)).registry.handles[place]? = some h)
    (hj : ((start s).run s (before ++ after)).jobs[job]? = some ⟨.batch, .answered (.ok (.summary sum))⟩) :
    h.session.state ≠ .running ∧ ∃ now, sum = h.session.summary now := by
  have htracked := tracked s before
  obtain ⟨phase, hjob, hplace⟩ := hd
  have hlt := htracked.inRange.phases job phase place (phase?_of_job hjob) hplace
  obtain ⟨x, hx, ht⟩ := htracked.courses place _ (List.getElem?_eq_getElem hlt)
  rw [run_append] at hh hj
  rcases drives_run ht hx.sound ⟨phase, hjob, hplace⟩ after hh with ⟨phase', hjob', hplace'⟩ | ⟨hover, now, hjob'⟩
  · rw [hj] at hjob'
    cases hjob'
    cases hplace'
  · rw [hj] at hjob'
    cases hjob'
    exact ⟨hover, now, rfl⟩

/-- The calls made for a session are those that its log and the primary's answers ask for, one after the other, as
often as no attempt is under way. -/
theorem session_calls (s : Settings) (events : List (Time.Stamp × Action)) (place : Nat) (h : Handle)
    (hh : ((start s).run s events).registry.handles[place]? = some h) :
    let m := (start s).run s events
    ((∀ job, ¬ m.UnderWay place job) →
        Transcript s h.session.language h.session.attempts (heard s place (start s) events) (m.callsAt place)) ∧
      (∀ a ∈ h.session.attempts,
        a.fix.isSome = true ↔ a.succeeded = false ∧ a.index < h.session.maxAttempts) ∧
      (∀ role language code error, .ask role language code error ∈ m.callsAt place → Text.blank error = false) ∧
      ∀ before after job sum, events = before ++ after → ((start s).run s before).Drives place job →
        m.jobs[job]? = some ⟨.batch, .answered (.ok (.summary sum))⟩ → Accounted (m.callsAt place) sum := by
  intro m
  obtain ⟨x, hx, ht, settled, pending, hheard, hpending, hscript⟩ := (conversed s events place).2 h hh
  have hsound := hx.sound
  refine ⟨fun hquiet ↦ ?_, fun a ha ↦ ?_, fun role language code error hc ↦ (signalled s events).not_blank hc, ?_⟩
  · have hf := ht.flight_eq_none_iff.2 hquiet
    rw [hf] at hpending
    have hnil : pending = [] := hpending
    rw [ht.calls, hsound.calls_of_landed hf, hheard, hnil, List.append_nil, ht.session]
    exact hscript
  · rw [ht.session] at ha ⊢
    exact (hsound.session.faithful a ha).fix
  · rintro before after job sum rfl hd hj
    obtain ⟨hover, now, rfl⟩ := summedUp_of_drives hd hh hj
    have hf := hsound.flight_of_over (ht.session ▸ hover)
    have hsession : h.session.Sound s.config.retry.onNoFix := ht.session ▸ hsound.session
    rw [ht.calls, hsound.calls_of_landed hf, ← ht.session]
    exact accounted_of_over hsession hover s now

/-- A batch session with a budget of two, for which the primary fails and the fallback has a fix that fails too. -/
def relayed : List (Time.Stamp × Action) :=
  [(⟨0, 0⟩, .arrive (.run "python" "print(1" (some 2) none) 7), (⟨1, 0⟩, .proceed 0), (⟨1, 0⟩, .proceed 0),
   (⟨2, 0⟩, .ran 0 (.runtimeFailure "" "SyntaxError" (some 1))), (⟨3, 0⟩, .answered 0 (.failed "quota")),
   (⟨4, 0⟩, .answered 0 (.proposal ⟨"The bracket was open.", "print(x)", none⟩)), (⟨4, 0⟩, .proceed 0),
   (⟨4, 0⟩, .proceed 0), (⟨5, 0⟩, .ran 0 (.runtimeFailure "" "NameError" (some 1))), (⟨5, 0⟩, .proceed 0)]

theorem session_calls_relayed :
    let calls : List Call := [.run .python "print(1", .ask .primary .python "print(1" "SyntaxError",
      .ask .fallback .python "print(1" "SyntaxError", .run .python "print(x)"]
    ∃ h sum, ((start .backed).run .backed relayed).registry.handles[0]? = some h ∧
      (heard .backed 0 (start .backed) relayed).length = 1 ∧
      Transcript .backed h.session.language h.session.attempts (heard .backed 0 (start .backed) relayed) calls ∧
      sum.state = .exhausted ∧ Accounted calls sum := by
  intro calls
  have hcalls : ((start .backed).run .backed relayed).callsAt 0 = calls := by decide +kernel
  have hheard : (heard .backed 0 (start .backed) relayed).length = 1 := by decide +kernel
  have hsome : (((start .backed).run .backed relayed).registry.handles[0]?).isSome = true := by decide +kernel
  obtain ⟨h, hh⟩ := Option.isSome_iff_exists.1 hsome
  have hdrives : ((start .backed).run .backed (relayed.take 1)).Drives 0 0 := drives_of_job (by decide +kernel)
  have hended : (((start .backed).run .backed relayed).jobs.map fun j ↦
      (j.mode, j.phase.summary?.map Summary.state)) = [(.batch, some .exhausted)] := by decide +kernel
  obtain ⟨⟨mode, phase⟩, hjobs, he⟩ := List.map_eq_singleton_iff.1 hended
  obtain ⟨hmode, hphase⟩ := Prod.mk.inj he
  obtain ⟨sum, hsum, hstate⟩ := Option.map_eq_some_iff.1 hphase
  dsimp only at hmode
  subst hmode
  obtain rfl := Phase.summary?_eq_some.1 hsum
  obtain ⟨hscript, -, -, hbatch⟩ := session_calls .backed relayed 0 h hh
  have hquiet : ∀ job, ¬ ((start .backed).run .backed relayed).UnderWay 0 job := by
    intro job hu
    rw [UnderWay, phase?, hjobs] at hu
    cases job <;> simp [Phase.underWay?] at hu
  have hj : ((start .backed).run .backed relayed).jobs[0]? = some ⟨.batch, .answered (.ok (.summary sum))⟩ := by
    rw [hjobs]
    rfl
  have haccounted := hbatch (relayed.take 1) (relayed.drop 1) 0 sum rfl hdrives hj
  rw [hcalls] at haccounted
  exact ⟨h, sum, hh, hheard, hcalls ▸ hscript hquiet, hstate, haccounted⟩

end Machine

end CodeRepair

import CodeRepair.Proofs.Service.Reachable
import Mathlib.Data.List.Basic
import Mathlib.Data.List.Induction

/-!
What a cancelled token does to a session. No attempt starts any more and those in line are turned away; an attempt
that is under way is carried to its end and recorded, and the batch job of the session is answered with all that was
run.
-/
namespace CodeRepair

namespace Session

variable {x y : Session} {mode : Mode} {answer : Answer} {policy : NoFixPolicy}

/-- How a job that asks for an attempt is answered when the session is over or cancelled. -/
def TurnsAway (x : Session) : Mode → Answer → Prop
  | .paced, answer =>
    answer = .error (if x.state = .running ∨ x.state = .cancelled then .cancelled x.id else .alreadyComplete x.id)
  | .batch, answer =>
    ∃ sum, answer = .ok (.summary sum) ∧ sum.attempts = x.attempts ∧
      sum.state = if x.state = .running then .cancelled else x.state

theorem turnsAway_paced (x : Session) (now : Time.Stamp) :
    x.TurnsAway .paced (.error (x.finish .cancelled now).refusal) := by
  by_cases hr : x.state = .running
  · rw [finish_of_running _ _ hr]
    simp [TurnsAway, refusal, hr]
  · rw [finish_of_complete _ _ ((isComplete_iff x).2 hr)]
    simp [TurnsAway, refusal, hr]

theorem turnsAway_batch (x : Session) (now now' : Time.Stamp) :
    x.TurnsAway .batch (.ok (.summary ((x.finish .cancelled now).summary now'))) := by
  refine ⟨_, rfl, ?_⟩
  by_cases hr : x.state = .running
  · rw [finish_of_running _ _ hr]
    simp [summary, hr]
  · rw [finish_of_complete _ _ ((isComplete_iff x).2 hr)]
    simp [summary, hr]

theorem GivesUp.turnsAway (h : x.GivesUp y) (ht : y.TurnsAway mode answer) : x.TurnsAway mode answer := by
  rcases h with rfl | ⟨hr, now, rfl⟩
  · exact ht
  · rw [finish_of_running _ _ hr] at ht
    cases mode with
    | paced => simpa [TurnsAway, hr] using ht
    | batch => simpa [TurnsAway, hr] using ht

theorem Sound.state_eq (h : x.Sound policy) (hs : x.state ≠ .running) :
    x.state = (x.decision policy).getD .cancelled := by
  cases hd : x.decision policy with
  | some st => exact h.decided st hd
  | none => exact (h.undecided hd).resolve_left hs

end Session

def Action.job? : Action → Option Nat
  | .proceed job | .ran job _ | .answered job _ => some job
  | _ => none

namespace Machine

variable {s : Settings} {m : Machine} {now : Time.Stamp} {place job : Nat} {h : Handle} {x : Course} {mode : Mode}
  {phase phase' : Phase} {r : Registry} {calls : List (Option Nat × Call)} {action : Action}

/-- A job is making an attempt of the session at a place. -/
def UnderWay (m : Machine) (place job : Nat) : Prop := (m.phase? job).bind Phase.underWay? = some place

def Drives (m : Machine) (place job : Nat) : Prop :=
  ∃ phase, m.jobs[job]? = some ⟨.batch, phase⟩ ∧ phase.place? = some place

theorem drives_of_job (h : (m.jobs[job]?.map fun j ↦ (j.mode, j.phase.place?)) = some (.batch, some place)) :
    m.Drives place job := by
  obtain ⟨⟨mode, phase⟩, hj, he⟩ := Option.map_eq_some_iff.1 h
  obtain ⟨rfl, hplace⟩ := Prod.mk.inj he
  exact ⟨phase, hj, hplace⟩

def TurnedAway (m : Machine) (x : Session) (job : Nat) : Prop :=
  ∃ mode answer, m.jobs[job]? = some ⟨mode, .answered answer⟩ ∧ x.TurnsAway mode answer

theorem Progress.job? (hp : Progress s m now job action mode phase phase' r calls) : action.job? = some job := by
  cases hp <;> rfl

theorem Progress.not_answered {answer : Answer} :
    ¬ Progress s m now job action mode (.answered answer) phase' r calls := fun hp ↦ by
  cases hp with
  | debugged hs _ => cases hs
  | settled hs _ _ => cases hs

/-- What an action does to one job: the job stays where it is, because the action is not for it or does not apply, or
it moves. -/
theorem job_step (hj : m.jobs[job]? = some ⟨mode, phase⟩) (s : Settings) (now : Time.Stamp) (action : Action) :
    ((action.job? = some job → m.Idle action) ∧ (m.step s now action).jobs[job]? = some ⟨mode, phase⟩) ∨
      ∃ phase' r calls, Progress s m now job action mode phase phase' r calls ∧
        (m.step s now action).jobs[job]? = some ⟨mode, phase'⟩ ∧
        m.step s now action = m.moved job phase' r calls := by
  have hs := step_transition s m now action
  generalize m.step s now action = m' at hs ⊢
  cases hs with
  | ignored hi => exact .inl ⟨fun _ ↦ hi, hj⟩
  | callerCancelled => exact .inl ⟨by simp [Action.job?], hj⟩
  | arrived => exact .inl ⟨by simp [Action.job?], Places.concat_of_some _ hj⟩
  | @moved _ job' mode' phase₀ phase' r calls hj' hp =>
    by_cases he : job' = job
    · subst he
      rw [hj] at hj'; cases hj'
      exact .inr ⟨phase', r, calls, hp, by simp [Machine.moved, setPhase, hj], rfl⟩
    · refine .inl ⟨fun ha ↦ ?_, ?_⟩
      · rw [hp.job?] at ha
        exact absurd (Option.some.inj ha) he
      · simp [Machine.moved, setPhase, List.getElem?_modify_ne _ _ he, hj]

theorem answered_run {answer : Answer} (hj : m.jobs[job]? = some ⟨mode, .answered answer⟩) (s : Settings)
    (events : List (Time.Stamp × Action)) : (m.run s events).jobs[job]? = some ⟨mode, .answered answer⟩ := by
  refine run_invariant (P := fun m ↦ m.jobs[job]? = some ⟨mode, .answered answer⟩) events hj fun m' hj e _ ↦ ?_
  rcases job_step hj s e.1 e.2 with ⟨-, hj'⟩ | ⟨_, _, _, hp, -⟩
  · exact hj'
  · exact absurd hp Progress.not_answered

theorem TurnedAway.run {x : Session} (ht : m.TurnedAway x job) (s : Settings) (events : List (Time.Stamp × Action)) :
    (m.run s events).TurnedAway x job := by
  obtain ⟨mode, answer, hj, ha⟩ := ht
  exact ⟨mode, answer, answered_run hj s events, ha⟩

theorem Traces.run (ht : m.Traces place h x) (hx : x.Sound s) (events : List (Time.Stamp × Action)) :
    ∃ h' y, (m.run s events).Traces place h' y ∧ Course.Leads s x y := by
  induction events using List.reverseRecOn with
  | nil => exact ⟨h, x, ht, .refl⟩
  | append_singleton events e ih =>
    obtain ⟨h', y, ht', hl⟩ := ih
    obtain ⟨h'', z, ht'', hs, -⟩ := ht'.step (hx.leads hl) e.1 e.2
    rw [run_append]
    exact ⟨h'', z, ht'', hl.step hs⟩

theorem Traces.flight_eq_none_iff (ht : m.Traces place h x) : x.flight = none ↔ ∀ job, ¬ m.UnderWay place job := by
  rw [← Option.map_eq_none_iff (f := Flight.phase place x.session), ht.line.front_eq_none_iff]
  constructor
  · intro hn job hu
    obtain ⟨phase, hj, hp⟩ := Option.bind_eq_some_iff.1 hu
    exact hn job phase hj hp
  · intro hn job phase hj hp
    exact hn job (by rw [UnderWay, hj]; exact hp)

/-- Who waits for an attempt of a cancelled session waits on or is turned away; the first in line is turned away when
it goes on. -/
theorem waiting_step (hh : m.registry.handles[place]? = some h) (hc : m.isCancelled h = true)
    (hj : m.phase? job = some (.waiting place)) (s : Settings) (now : Time.Stamp) (action : Action) :
    ((m.step s now action).phase? job = some (.waiting place) ∧
        (h.turns.head? = some job → action ≠ .proceed job)) ∨
      (m.step s now action).TurnedAway h.session job := by
  obtain ⟨mode, hj⟩ := phase?_eq_some.1 hj
  rcases job_step hj s now action with ⟨hi, hj'⟩ | ⟨phase', r, calls, hp, hj', -⟩
  · refine .inl ⟨phase?_of_job hj', fun hhead ha ↦ ?_⟩
    subst ha
    exact (hi rfl).2 place h (phase?_of_job hj) hh hhead
  · cases hp with
    | refused hh' =>
      rw [hh] at hh'; cases hh'
      exact .inr ⟨_, _, hj', h.session.turnsAway_paced now⟩
    | ended hh' =>
      rw [hh] at hh'; cases hh'
      exact .inr ⟨_, _, hj', h.session.turnsAway_batch now now⟩
    | entered hh' _ _ hn =>
      rw [hh] at hh'; cases hh'
      rw [hc] at hn; cases hn
    | debugged hs _ => cases hs
    | settled hs _ _ => cases hs

/-- The token of a session is cancelled, and no attempt of it is under way. -/
structure AtRest (s : Settings) (m : Machine) (place : Nat) (h : Handle) (x : Course) : Prop
    extends m.Traces place h x where
  sound : x.Sound s
  off : x.cancelled = true
  landed : x.flight = none

namespace AtRest

variable {events : List (Time.Stamp × Action)}

theorem step (hr : AtRest s m place h x) (now : Time.Stamp) (action : Action) :
    ∃ h' y, AtRest s (m.step s now action) place h' y ∧ h.session.GivesUp h'.session ∧
      ((∃ joined, h'.turns = h.turns ++ joined) ∨ h'.turns = h.turns.tail) := by
  obtain ⟨h', y, ht', hs, hshift⟩ := hr.toTraces.step hr.sound now action
  obtain ⟨hf', -, hg⟩ := hs.closed hr.off hr.landed
  refine ⟨h', y, ⟨ht', Course.sound_step hr.sound hs, hs.cancelled hr.off, hf'⟩, ?_, ?_⟩
  · rw [hr.session, ht'.session]; exact hg
  · rcases hshift with hsame | ⟨new, hnew⟩ | ⟨-, htail⟩
    · exact .inl ⟨[], by simp [hsame]⟩
    · exact .inl ⟨[new], hnew⟩
    · exact .inr htail

theorem run (hr : AtRest s m place h x) (events : List (Time.Stamp × Action)) :
    ∃ h' y, AtRest s (m.run s events) place h' y ∧ y.calls = x.calls ∧ h.session.GivesUp h'.session := by
  obtain ⟨h', y, ht', hl⟩ := hr.toTraces.run hr.sound events
  obtain ⟨hf', hcalls, hg⟩ := hl.closed hr.off hr.landed
  refine ⟨h', y, ⟨ht', hr.sound.leads hl, hl.cancelled hr.off, hf'⟩, hcalls, ?_⟩
  rw [hr.session, ht'.session]; exact hg

theorem turnedAway {x y : Session} (hg : x.GivesUp y) (ha : m.TurnedAway y job) : m.TurnedAway x job := by
  obtain ⟨mode, answer, hj, ha⟩ := ha
  exact ⟨mode, answer, hj, hg.turnsAway ha⟩

/-- Whoever waits for an attempt is never let in. -/
theorem waiting_run (hr : AtRest s m place h x) (hj : m.phase? job = some (.waiting place))
    (events : List (Time.Stamp × Action)) :
    (m.run s events).phase? job = some (.waiting place) ∨ (m.run s events).TurnedAway h.session job := by
  induction events using List.reverseRecOn with
  | nil => exact .inl hj
  | append_singleton events e ih =>
    rw [run_append]
    rcases ih with hw | haway
    · obtain ⟨h', y, hr', -, hg⟩ := hr.run events
      rcases waiting_step hr'.handle (hr'.cancelled.trans hr'.off) hw s e.1 e.2 with ⟨hw', -⟩ | haway
      · exact .inl hw'
      · exact .inr (turnedAway hg haway)
    · exact .inr (haway.run s [e])

theorem waits (hr : AtRest s m place h x) (hj : job ∈ h.turns) : m.phase? job = some (.waiting place) := by
  have ho := hr.line.order
  rw [hr.landed] at ho
  cases ho with
  | free hw => exact hw job hj

theorem turnedAway_of_left (hr : AtRest s m place h x) (hj : job ∈ h.turns) {h' : Handle} {y : Course}
    {now : Time.Stamp} (hr' : AtRest s (m.step s now action) place h' y) (hleft : job ∉ h'.turns) :
    (m.step s now action).TurnedAway h.session job := by
  rcases waiting_step hr.handle (hr.cancelled.trans hr.off) (hr.waits hj) s now action with ⟨hw, -⟩ | haway
  · exact absurd ((hr'.line.mem_iff job).2 (by rw [hw]; rfl)) hleft
  · exact haway

theorem ne_proceed_of_stays (hr : AtRest s m place h x) (hhead : h.turns.head? = some job) {h' : Handle} {y : Course}
    {now : Time.Stamp} (hr' : AtRest s (m.step s now action) place h' y) (hstays : job ∈ h'.turns) :
    action ≠ .proceed job := by
  rcases waiting_step hr.handle (hr.cancelled.trans hr.off) (hr.waits (List.mem_of_head? hhead)) s now action with
    ⟨-, hne⟩ | ⟨mode, answer, hj, -⟩
  · exact hne hhead
  · have hw := hr'.waits hstays
    rw [phase?_of_job hj] at hw
    cases hw

/-- The jobs in line are all turned away as soon as each has gone on in its turn, whatever else happens in between. -/
theorem drained (hr : AtRest s m place h x) {line rest : List Nat} (hline : h.turns = line ++ rest)
    (hsub : (line.map Action.proceed).Sublist (events.map (·.2))) :
    ∀ job ∈ line, (m.run s events).TurnedAway h.session job := by
  induction events generalizing m h x line rest with
  | nil =>
    have : line = [] := by simpa using hsub
    simp [this]
  | cons e events ih =>
    cases line with
    | nil => simp
    | cons first line =>
      obtain ⟨h', y, hr', hg, hturns⟩ := hr.step e.1 e.2
      rcases hturns with ⟨joined, hjoined⟩ | htail
      · have hline' : h'.turns = first :: line ++ (rest ++ joined) := by simp [hjoined, hline]
        have hne : e.2 ≠ .proceed first :=
          hr.ne_proceed_of_stays (by simp [hline]) hr' (by simp [hline'])
        have hsub' := List.Sublist.of_cons_of_ne (Ne.symm hne) hsub
        exact fun job hj ↦ turnedAway hg (ih hr' hline' hsub' job hj)
      · have hline' : h'.turns = line ++ rest := by simp [htail, hline]
        intro job hj
        rcases List.mem_cons.1 hj with rfl | hj
        · have hnodup := hr.line.nodup
          rw [hline] at hnodup
          have hleft : job ∉ h'.turns := by rw [hline']; exact (List.nodup_cons.1 hnodup).1
          exact (hr.turnedAway_of_left (by simp [hline]) hr' hleft).run s events
        · exact turnedAway hg (ih hr' hline' hsub.tail job hj)

end AtRest

theorem between_step (hh : m.registry.handles[place]? = some h)
    (hj : m.jobs[job]? = some ⟨.batch, .between place⟩) (s : Settings) (now : Time.Stamp) :
    (m.step s now (.proceed job)).phase? job = some (.waiting place) ∨
      (m.step s now (.proceed job)).TurnedAway h.session job := by
  rcases job_step hj s now (.proceed job) with ⟨hi, -⟩ | ⟨phase', r, calls, hp, hj', -⟩
  · have hnone := (hi rfl).1 place (phase?_of_job hj)
    rw [hh] at hnone; cases hnone
  · cases hp with
    | summedUp hh' hc =>
      rw [hh] at hh'; cases hh'
      refine .inr ⟨_, _, hj', _, rfl, rfl, ?_⟩
      rw [if_neg ((Session.isComplete_iff _).1 hc)]; rfl
    | queued => exact .inl (phase?_of_job hj')

section UnderWay

theorem exists_underWay (ht : m.Traces place h x) (hf : x.flight ≠ none) :
    ∃ job, h.turns.head? = some job ∧ m.UnderWay place job := by
  have ho := ht.line.order
  cases hx : x.flight with
  | none => exact absurd hx hf
  | some f =>
    rw [hx] at ho
    generalize h.turns = turns at ho
    cases ho with
    | taken hj hu _ => exact ⟨_, rfl, by rw [UnderWay, hj]; exact hu⟩

/-- The job with an attempt under way keeps it while the session has one under way. -/
theorem underWay_step (ht : m.Traces place h x) (hu : m.UnderWay place job) {m' : Machine} {h' : Handle} {y : Course}
    (ht' : m'.Traces place h' y) (hshift : Shifts h.turns h'.turns y.flight) (hf : y.flight ≠ none) :
    m'.UnderWay place job := by
  obtain ⟨phase, hj, hp⟩ := Option.bind_eq_some_iff.1 hu
  obtain ⟨f, -, -, hhead⟩ := ht.flight_of_underWay hj hp
  have hhead' : h'.turns.head? = some job := by
    rcases hshift with hsame | ⟨new, hnew⟩ | ⟨hnone, -⟩
    · rw [hsame]; exact hhead
    · rw [hnew]
      cases hturns : h.turns with
      | nil => rw [hturns] at hhead; cases hhead
      | cons k rest => rw [hturns] at hhead; exact hhead
    · exact absurd hnone hf
  obtain ⟨job', hjob', hu'⟩ := exists_underWay ht' hf
  rw [hhead'] at hjob'; cases hjob'
  exact hu'

theorem underWay_run (ht : m.Traces place h x) (hx : x.Sound s) (hc : x.cancelled = true) (hu : m.UnderWay place job)
    (events : List (Time.Stamp × Action)) :
    ∃ h' y, (m.run s events).Traces place h' y ∧ Course.Leads s x y ∧
      (y.flight ≠ none → (m.run s events).UnderWay place job) := by
  induction events using List.reverseRecOn with
  | nil => exact ⟨h, x, ht, .refl, fun _ ↦ hu⟩
  | append_singleton events e ih =>
    obtain ⟨h', y, ht', hl, hy⟩ := ih
    obtain ⟨h'', z, ht'', hs, hshift⟩ := ht'.step (hx.leads hl) e.1 e.2
    rw [run_append]
    refine ⟨h'', z, ht'', hl.step hs, fun hz ↦ ?_⟩
    have hyf : y.flight ≠ none := fun hn ↦ hz (hs.closed (hl.cancelled hc) hn).1
    exact underWay_step ht' (hy hyf) ht'' hshift hz

/-- What a job with an attempt under way still has to hear, given the run's result and the providers' answers. -/
def awaits (job : Nat) (result : ExecutionResult) (answer answer' : Answered) : Phase → List Action
  | .running .. => [.ran job result, .answered job answer, .answered job answer']
  | .askingPrimary _ => [.answered job answer, .answered job answer']
  | .askingFallback .. => [.answered job answer']
  | _ => []

theorem awaits_step {result : ExecutionResult} {answer answer' : Answered} {rest : List Action}
    (hj : m.phase? job = some phase) (hp : phase.underWay? = some place)
    (hsub : (awaits job result answer answer' phase).Sublist (action :: rest)) (s : Settings) (now : Time.Stamp)
    (hu : (m.step s now action).UnderWay place job) :
    ∃ phase', (m.step s now action).phase? job = some phase' ∧ phase'.underWay? = some place ∧
      (awaits job result answer answer' phase').Sublist rest := by
  obtain ⟨mode, hj⟩ := phase?_eq_some.1 hj
  rcases job_step hj s now action with ⟨hi, hj'⟩ | ⟨phase', r, calls, hpr, hj', -⟩
  · refine ⟨phase, phase?_of_job hj', hp, ?_⟩
    have hphase := phase?_of_job hj
    cases phase with
    | running purpose language code =>
      refine List.Sublist.of_cons_of_ne (fun ha ↦ ?_) hsub
      subst ha
      exact hi rfl purpose language code hphase
    | askingPrimary f =>
      refine List.Sublist.of_cons_of_ne (fun ha ↦ ?_) hsub
      subst ha
      exact (hi rfl).1 f hphase
    | askingFallback f problem =>
      refine List.Sublist.of_cons_of_ne (fun ha ↦ ?_) hsub
      subst ha
      exact (hi rfl).2 f problem hphase
    | _ => cases hp
  · have hu' : phase'.underWay? = some place := by
      rw [UnderWay, phase?_of_job hj'] at hu
      exact hu
    refine ⟨phase', phase?_of_job hj', hu', ?_⟩
    cases hpr with
    | askedPrimary | askedFallback => exact hsub.tail
    | entered => cases hp
    | queued => cases hp
    | concluded _ _ => cases mode <;> cases hu'
    | settled _ _ _ => cases mode <;> cases hu'
    | _ => cases hu'

/-- An attempt is no longer under way when its job has heard of its run and of both providers. -/
theorem landed_of_heard {result : ExecutionResult} {answer answer' : Answered} {events : List (Time.Stamp × Action)}
    (ht : m.Traces place h x) (hx : x.Sound s) (hc : x.cancelled = true) (hj : m.phase? job = some phase)
    (hp : phase.underWay? = some place)
    (hsub : (awaits job result answer answer' phase).Sublist (events.map (·.2))) :
    ¬ (m.run s events).UnderWay place job := by
  induction events generalizing m h x phase with
  | nil =>
    have : awaits job result answer answer' phase = [] := by simpa using hsub
    cases phase <;> first | cases hp | cases this
  | cons e events ih =>
    obtain ⟨h', y, ht', hs, hshift⟩ := ht.step hx e.1 e.2
    have hc' := hs.cancelled hc
    have hx' := Course.sound_step hx hs
    cases hy : y.flight with
    | some f =>
      have hu := underWay_step ht (by rw [UnderWay, hj]; exact hp) ht' hshift (by simp [hy])
      obtain ⟨phase', hj', hp', hsub'⟩ := awaits_step hj hp hsub s e.1 hu
      exact ih ht' hx' hc' hj' hp' hsub'
    | none =>
      have hrest : AtRest s (m.step s e.1 e.2) place h' y := ⟨ht', hx', hc', hy⟩
      obtain ⟨h'', z, hrest', -⟩ := hrest.run events
      exact hrest'.flight_eq_none_iff.1 hrest'.landed job

end UnderWay

section Batch

def SummedUp (m : Machine) (job : Nat) (x : Session) : Prop :=
  x.state ≠ .running ∧ ∃ now, m.jobs[job]? = some ⟨.batch, .answered (.ok (.summary (x.summary now)))⟩

theorem drives_step {h' : Handle} (hh : m.registry.handles[place]? = some h) (hd : m.Drives place job)
    (hh' : (m.step s now action).registry.handles[place]? = some h') :
    (m.step s now action).Drives place job ∨ (m.step s now action).SummedUp job h'.session := by
  obtain ⟨phase, hj, hplace⟩ := hd
  rcases job_step hj s now action with ⟨-, hj'⟩ | ⟨phase', r, calls, hp, hj', he⟩
  · exact .inl ⟨phase, hj', hplace⟩
  · rw [he] at hh'
    have goesOn (hsame : phase'.place? = phase.place?) : (m.step s now action).Drives place job :=
      ⟨phase', hj', hsame.trans hplace⟩
    cases hp with
    | queued | entered | askedPrimary | askedFallback | concluded => exact .inl (goesOn rfl)
    | settled hs hf _ =>
      refine .inl (goesOn ?_)
      cases hs <;> simp [recordedPhase, hf]
    | summedUp hq hc =>
      cases hplace
      rw [hh] at hq; cases hq
      have hsame : h'.session = h.session := (Registry.keepsAt_evict _ _ place).session hh hh'
      exact .inr ⟨by rw [hsame]; exact (Session.isComplete_iff _).1 hc, now, by rw [hsame]; exact hj'⟩
    | ended hq _ _ =>
      cases hplace
      rw [hh] at hq; cases hq
      have hsame : h'.session = h.session.finish .cancelled now :=
        (Registry.keepsAt_evict _ _ place).session (Registry.modify_self _ hh) hh'
      refine .inr ⟨?_, now, by rw [hsame]; exact hj'⟩
      rw [hsame, Session.finish]
      split
      next hc => exact (Session.isComplete_iff _).1 hc
      next => simp
    | executed | passed => cases hplace
    | debugged hs hf =>
      have hnone : phase.place? = none := by cases hs <;> simp [hf]
      rw [hnone] at hplace; cases hplace

theorem drives_run (ht : m.Traces place h x) (hx : x.Sound s) (hd : m.Drives place job)
    (events : List (Time.Stamp × Action)) {h' : Handle}
    (hh' : (m.run s events).registry.handles[place]? = some h') :
    (m.run s events).Drives place job ∨ (m.run s events).SummedUp job h'.session := by
  induction events using List.reverseRecOn generalizing h' with
  | nil => exact .inl hd
  | append_singleton events e ih =>
    obtain ⟨h₁, y, ht', hl⟩ := ht.run hx events
    obtain ⟨h₂, z, ht'', hs, -⟩ := ht'.step (hx.leads hl) e.1 e.2
    rw [run_append] at hh' ⊢
    rcases ih ht'.handle with hd' | ⟨hover, when, hj⟩
    · exact drives_step ht'.handle hd' hh'
    · have he : ((m.run s events).run s [e]).registry.handles[place]? = some h₂ := ht''.handle
      rw [hh'] at he; cases he
      have hsame : h'.session = h₁.session := by
        rw [ht''.session, ht'.session]
        exact (Course.Leads.refl.step hs).complete (hx.leads hl) (ht'.session ▸ hover)
      exact .inr ⟨hsame ▸ hover, when, by rw [hsame]; exact answered_run hj s [e]⟩

theorem AtRest.exists_turnedAway (hr : AtRest s m place h x) (hj : m.phase? job = some (.waiting place)) :
    ∃ events, (m.run s events).TurnedAway h.session job := by
  let events := h.turns.map fun j ↦ ((default : Time.Stamp), Action.proceed j)
  have hsub : (h.turns.map Action.proceed).Sublist (events.map (·.2)) := by
    simp [events, List.map_map, Function.comp_def]
  have hmem : job ∈ h.turns := (hr.line.mem_iff job).2 (by rw [hj]; rfl)
  exact ⟨events, hr.drained (List.append_nil _).symm hsub job hmem⟩

theorem AtRest.batch_ends (hr : AtRest s m place h x) (hd : m.Drives place job) :
    ∃ events h', (m.run s events).registry.handles[place]? = some h' ∧ (m.run s events).SummedUp job h'.session := by
  have ends : ∃ events, (m.run s events).TurnedAway h.session job := by
    obtain ⟨phase, hj, hplace⟩ := hd
    cases phase with
    | between q =>
      cases hplace
      rcases between_step hr.handle hj s default with hw | haway
      · obtain ⟨h', y, hr', hg, -⟩ := hr.step default (.proceed job)
        obtain ⟨events, ha⟩ := hr'.exists_turnedAway hw
        exact ⟨(default, .proceed job) :: events, AtRest.turnedAway hg ha⟩
      · exact ⟨[(default, .proceed job)], haway⟩
    | waiting q =>
      cases hplace
      exact hr.exists_turnedAway (phase?_of_job hj)
    | answered => cases hplace
    | _ =>
      refine absurd ?_ (hr.flight_eq_none_iff.1 hr.landed job)
      rw [UnderWay, phase?_of_job hj]
      exact hplace
  obtain ⟨events, mode, answer, hj', -⟩ := ends
  obtain ⟨h', y, hr', -⟩ := hr.run events
  refine ⟨events, h', hr'.handle, (drives_run hr.toTraces hr.sound hd events hr'.handle).resolve_left ?_⟩
  rintro ⟨phase, hj, hplace⟩
  rw [hj] at hj'; cases hj'; cases hplace

/-- A batch job of a cancelled session can always come to its end. -/
theorem batch_ends (ht : m.Traces place h x) (hx : x.Sound s) (hc : x.cancelled = true) (hd : m.Drives place job) :
    ∃ events h', (m.run s events).registry.handles[place]? = some h' ∧ (m.run s events).SummedUp job h'.session := by
  cases hf : x.flight with
  | none => exact AtRest.batch_ends ⟨ht, hx, hc, hf⟩ hd
  | some f =>
    obtain ⟨maker, -, hu⟩ := exists_underWay ht (by simp [hf])
    obtain ⟨phase, hj, hp⟩ := Option.bind_eq_some_iff.1 hu
    let heard := awaits maker default .timedOut .timedOut phase
    let events := heard.map fun action ↦ ((default : Time.Stamp), action)
    have hsub : heard.Sublist (events.map (·.2)) := by simp [events, List.map_map, Function.comp_def]
    obtain ⟨h', y, ht', hl, hy⟩ := underWay_run ht hx hc hu events
    have hnone : y.flight = none := by
      cases hy' : y.flight with
      | none => rfl
      | some f' => exact absurd (hy (by simp [hy'])) (landed_of_heard ht hx hc hj hp hsub)
    rcases drives_run ht hx hd events ht'.handle with hd' | hover
    · obtain ⟨more, h'', hh'', hover⟩ := AtRest.batch_ends ⟨ht', hx.leads hl, hl.cancelled hc, hnone⟩ hd'
      rw [← run_append] at hh'' hover
      exact ⟨events ++ more, h'', hh'', hover⟩
    · exact ⟨events, h', ht'.handle, hover⟩

end Batch

def CancelledAt (m : Machine) (place : Nat) : Prop :=
  ∃ h, m.registry.handles[place]? = some h ∧ m.isCancelled h = true

theorem cancelCaller_cancels {caller : Nat} (hh : m.registry.handles[place]? = some h) (hc : h.caller = some caller)
    (s : Settings) (now : Time.Stamp) : (m.step s now (.cancelCaller caller)).CancelledAt place :=
  ⟨h, hh, by simp [step, isCancelled, hc]⟩

theorem delete_cancels {id : String} (hh : m.registry.handles[place]? = some h)
    (hl : m.registry.lookup id = .ok place) (s : Settings) (now : Time.Stamp) (bits : Nat) :
    (m.step s now (.arrive (.delete id) bits)).CancelledAt place := by
  obtain ⟨entries, hr⟩ := Registry.remove_of_lookup hl
  refine ⟨{ h with cancelled := true }, ?_, isCancelled_cancelled _ h⟩
  simp only [step]
  delta begin
  simp only [hr, hh]
  exact Registry.modify_self _ hh

/-- What becomes of a cancelled session of which no attempt is under way, from one moment to a later one. -/
structure Closes (s : Settings) (m : Machine) (events : List (Time.Stamp × Action)) (place : Nat) (h h' : Handle) :
    Prop where
  quiet : ∀ job, ¬ (m.run s events).UnderWay place job
  calls : (m.run s events).callsAt place = m.callsAt place
  attempts : h'.session.attempts = h.session.attempts
  state : h'.session.state = h.session.state ∨ h.session.state = .running ∧ h'.session.state = .cancelled
  waiting : ∀ earlier later job, events = earlier ++ later → (m.run s earlier).phase? job = some (.waiting place) →
    (m.run s events).phase? job = some (.waiting place) ∨ (m.run s events).TurnedAway h.session job
  /-- Whoever waits is turned away as soon as all in line have gone on in their turn. -/
  drained : ∀ earlier later h₁, events = earlier ++ later → (m.run s earlier).registry.handles[place]? = some h₁ →
    (h₁.turns.map Action.proceed).Sublist (later.map (·.2)) →
    ∀ job, (m.run s earlier).phase? job = some (.waiting place) → (m.run s events).TurnedAway h.session job

/-- What becomes of an attempt of a cancelled session that is under way, from one moment to a later one. -/
structure Carries (s : Settings) (m : Machine) (events : List (Time.Stamp × Action)) (place job : Nat)
    (h h' : Handle) : Prop where
  recorded : ((m.run s events).UnderWay place job ∧ h'.session.attempts = h.session.attempts) ∨
    (∀ other, ¬ (m.run s events).UnderWay place other) ∧
      ∃ a : Attempt, h'.session.attempts = h.session.attempts ++ [a] ∧ a.index = h.session.nextIndex ∧
        a.codeUsed = h.session.currentCode ∧ a.Faithful h.session.language h.session.maxAttempts ∧
        (m.run s events).callsAt place = h'.session.attempts.flatMap (Attempt.calls s h'.session.language)
  lands : ∀ result answer answer',
    [Action.ran job result, .answered job answer, .answered job answer'].Sublist (events.map (·.2)) →
      ¬ (m.run s events).UnderWay place job

/-- What becomes of the batch job of a cancelled session. -/
structure Concludes (s : Settings) (m : Machine) (place job : Nat) (h : Handle) : Prop where
  summary : m.Drives place job ∨
    (∃ now, m.jobs[job]? = some ⟨.batch, .answered (.ok (.summary (h.session.summary now)))⟩) ∧
      h.session.state = (h.session.decision s.config.retry.onNoFix).getD .cancelled ∧
      m.callsAt place = h.session.attempts.flatMap (Attempt.calls s h.session.language)
  ends : ∃ events h', (m.run s events).registry.handles[place]? = some h' ∧ (m.run s events).SummedUp job h'.session

theorem AtRest.closes (hr : AtRest s m place h x) {events : List (Time.Stamp × Action)} {h' : Handle}
    (hh' : (m.run s events).registry.handles[place]? = some h') : Closes s m events place h h' := by
  obtain ⟨h'', y, hr', hcalls, hg⟩ := hr.run events
  have he := hr'.handle
  rw [hh'] at he; cases he
  refine ⟨hr'.flight_eq_none_iff.1 hr'.landed, ?_, hg.attempts, ?_, ?_, ?_⟩
  · rw [hr'.calls, hr.calls, hcalls]
  · rcases hg with hsame | ⟨hrun, now, hover⟩
    · exact .inl (by rw [hsame])
    · rw [Session.finish_of_running _ _ hrun] at hover
      exact .inr ⟨hrun, by rw [hover]⟩
  · rintro earlier later job rfl hj
    obtain ⟨h₁, z, hr₁, -, hg₁⟩ := hr.run earlier
    rw [run_append]
    exact (hr₁.waiting_run hj later).imp_right (turnedAway hg₁)
  · rintro earlier later h₁ rfl hh₁ hsub job hj
    obtain ⟨h₂, z, hr₁, -, hg₁⟩ := hr.run earlier
    have he := hr₁.handle
    rw [hh₁] at he; cases he
    have hmem : job ∈ h₁.turns := (hr₁.line.mem_iff job).2 (by rw [hj]; rfl)
    rw [run_append]
    exact turnedAway hg₁ (hr₁.drained (List.append_nil _).symm hsub job hmem)

theorem Traces.carries (ht : m.Traces place h x) (hx : x.Sound s) (hc : x.cancelled = true)
    (hu : m.UnderWay place job) {events : List (Time.Stamp × Action)} {h' : Handle}
    (hh' : (m.run s events).registry.handles[place]? = some h') : Carries s m events place job h h' := by
  obtain ⟨phase, hj, hp⟩ := Option.bind_eq_some_iff.1 hu
  obtain ⟨f, hf, hphase, -⟩ := ht.flight_of_underWay hj hp
  obtain ⟨h'', y, ht', hl, hy⟩ := underWay_run ht hx hc hu events
  have he := ht'.handle
  rw [hh'] at he; cases he
  refine ⟨?_, fun result answer answer' hsub ↦ ?_⟩
  · rw [ht.session, ht'.session]
    rcases hl.carried hx hc hf with ⟨hf', hsame⟩ | ⟨hf', a, hfaith, hi, hcode, hadd⟩
    · exact .inl ⟨hy (by intro hn; rw [hn] at hf'; cases hf'), by rw [hsame]⟩
    · refine .inr ⟨ht'.flight_eq_none_iff.1 hf', a, hadd, hi, hcode, hfaith, ?_⟩
      rw [ht'.calls, (hx.leads hl).calls_of_landed hf']
  · have hheard : (awaits job result answer answer' phase).Sublist (events.map (·.2)) := by
      subst hphase
      cases f with
      | running => exact hsub
      | askingPrimary => exact (List.sublist_cons_self _ _).trans hsub
      | askingFallback => exact (List.sublist_cons_self _ _).trans ((List.sublist_cons_self _ _).trans hsub)
    exact landed_of_heard ht hx hc hj hp hheard

theorem Traces.concludes (ht : m.Traces place h x) (hx : x.Sound s) (hc : x.cancelled = true)
    (hd : m.Drives place job) {events : List (Time.Stamp × Action)} {h' : Handle}
    (hh' : (m.run s events).registry.handles[place]? = some h') : Concludes s (m.run s events) place job h' := by
  obtain ⟨h'', y, ht', hl⟩ := ht.run hx events
  have he := ht'.handle
  rw [hh'] at he; cases he
  have hy := hx.leads hl
  rcases drives_run ht hx hd events hh' with hd' | hover
  · exact ⟨.inl hd', batch_ends ht' hy (hl.cancelled hc) hd'⟩
  · refine ⟨.inr ⟨hover.2, ?_, ?_⟩, [], h', hh', hover⟩
    · exact ht'.session ▸ hy.session.state_eq (ht'.session ▸ hover.1)
    · have hf := hy.flight_of_over (ht'.session ▸ hover.1)
      rw [ht'.calls, hy.calls_of_landed hf, ht'.session]

/-- Cancellation, by the caller or by removal, is safe whenever it comes. Without an attempt under way the session is
closed at once; one that is under way is carried to its end and recorded once; and a batch job is answered with all of
it. -/
theorem cancellation_safe (s : Settings) (before : List (Time.Stamp × Action)) (place : Nat) (h : Handle)
    (hh : ((start s).run s before).registry.handles[place]? = some h) :
    let m := (start s).run s before
    (∀ now caller, h.caller = some caller → (m.step s now (.cancelCaller caller)).CancelledAt place) ∧
      (∀ now id bits, m.registry.lookup id = .ok place →
        (m.step s now (.arrive (.delete id) bits)).CancelledAt place) ∧
      (m.isCancelled h = true → ∀ events, ∃ h',
        (m.run s events).registry.handles[place]? = some h' ∧ (m.run s events).isCancelled h' = true ∧
          ((∀ job, ¬ m.UnderWay place job) → Closes s m events place h h') ∧
          (∀ job, m.UnderWay place job → Carries s m events place job h h') ∧
          ∀ job, m.Drives place job → Concludes s (m.run s events) place job h') := by
  intro m
  refine ⟨fun now caller hcaller ↦ cancelCaller_cancels hh hcaller s now,
    fun now id bits hl ↦ delete_cancels hh hl s now bits, fun hcancelled events ↦ ?_⟩
  obtain ⟨x, hreach, ht⟩ := (tracked s before).courses place h hh
  have hx := hreach.sound
  have hc : x.cancelled = true := ht.cancelled ▸ hcancelled
  obtain ⟨h', y, ht', hl⟩ := ht.run hx events
  refine ⟨h', ht'.handle, ht'.cancelled.trans (hl.cancelled hc), fun hq ↦ ?_, fun job hu ↦ ?_, fun job hd ↦ ?_⟩
  · exact AtRest.closes ⟨ht, hx, hc, ht.flight_eq_none_iff.2 hq⟩ ht'.handle
  · exact ht.carries hx hc hu ht'.handle
  · exact ht.concludes hx hc hd ht'.handle

/-- A batch session whose caller withdraws, with the job in line or with its first attempt under way. -/
def withdrawn (entered : Bool) : List (Time.Stamp × Action) :=
  [(⟨0, 0⟩, .arrive (.run "python" "print(1" none (some 1)) 7), (⟨1, 0⟩, .proceed 0)] ++
    (if entered then [(⟨1, 0⟩, .proceed 0)] else []) ++ [(⟨1, 0⟩, .cancelCaller 1)]

theorem cancellation_safe_withdrawn :
    (∃ h h', ((start .plain).run .plain (withdrawn false)).registry.handles[0]? = some h ∧
      Closes .plain ((start .plain).run .plain (withdrawn false)) [(⟨2, 0⟩, .proceed 0)] 0 h h') ∧
    ∃ h h', ((start .plain).run .plain (withdrawn true)).registry.handles[0]? = some h ∧
      Carries .plain ((start .plain).run .plain (withdrawn true)) [(⟨2, 0⟩, .ran 0 (.success "" ""))] 0 0 h h' ∧
      Concludes .plain (((start .plain).run .plain (withdrawn true)).run .plain [(⟨2, 0⟩, .ran 0 (.success "" ""))])
        0 0 h' := by
  have hoff (entered : Bool) : (((start .plain).run .plain (withdrawn entered)).registry.handles[0]?.map
      ((start .plain).run .plain (withdrawn entered)).isCancelled) = some true := by
    cases entered <;> decide +kernel
  obtain ⟨h, hh, hc⟩ := Option.map_eq_some_iff.1 (hoff false)
  obtain ⟨h₁, hh₁, hc₁⟩ := Option.map_eq_some_iff.1 (hoff true)
  obtain ⟨h', -, -, hcloses, -⟩ := (cancellation_safe .plain _ 0 h hh).2.2 hc [(⟨2, 0⟩, .proceed 0)]
  obtain ⟨h₁', -, -, -, hcarries, hconcludes⟩ :=
    (cancellation_safe .plain _ 0 h₁ hh₁).2.2 hc₁ [(⟨2, 0⟩, .ran 0 (.success "" ""))]
  have hquiet (job : Nat) : ¬ ((start .plain).run .plain (withdrawn false)).UnderWay 0 job := by
    have hjobs : ((start .plain).run .plain (withdrawn false)).jobs.length = 1 := by decide +kernel
    have hfirst : ((start .plain).run .plain (withdrawn false)).phase? 0 |>.bind Phase.underWay? |>.isNone := by
      decide +kernel
    cases job with
    | zero => rw [UnderWay, Option.isNone_iff_eq_none.1 hfirst]; simp
    | succ job =>
      rw [UnderWay, phase?, List.getElem?_eq_none (by omega)]
      simp
  have hunder : ((start .plain).run .plain (withdrawn true)).UnderWay 0 0 := by
    unfold UnderWay; decide +kernel
  have hdrives : ((start .plain).run .plain (withdrawn true)).Drives 0 0 := drives_of_job (by decide +kernel)
  exact ⟨⟨h, h', hh, hcloses hquiet⟩, h₁, h₁', hh₁, hcarries 0 hunder, hconcludes 0 hdrives⟩

end Machine

end CodeRepair

import CodeRepair.Proofs.Places
import CodeRepair.Proofs.Session.Log
import CodeRepair.Proofs.Session.Registry
import CodeRepair.Service.Machine

/-!
What one action does to a service, said once. A request that arrives becomes a job in some phase; a job that moves
goes from one phase to another; each may change the register and make a call, and nothing else changes.
-/
namespace CodeRepair

def Session.refusal (x : Session) : SessionError :=
  if x.state = .cancelled then .cancelled x.id else .alreadyComplete x.id

namespace Machine

def phase? (m : Machine) (job : Nat) : Option Phase := m.jobs[job]?.map Job.phase

def arrived (m : Machine) (mode : Mode) (phase : Phase) (r : Registry) (calls : List (Option Nat × Call)) : Machine :=
  { m with jobs := m.jobs ++ [⟨mode, phase⟩], registry := r, calls := calls }

def moved (m : Machine) (job : Nat) (phase : Phase) (r : Registry) (calls : List (Option Nat × Call)) : Machine :=
  { m.setPhase job phase with registry := r, calls := calls }

/-- The requests for one run, with what they run. -/
inductive Launches (s : Settings) : Request → Purpose → Language → String → Prop
  | execute {name code : String} {language : Language} :
      s.validate name code = .ok language → Launches s (.execute name code) .execute language code
  | debug {name code : String} {language : Language} :
      s.validate name code = .ok language → Launches s (.debug name code) .debug language code

/-- The requests for a session, with what they ask for. -/
inductive Opens (s : Settings) : Request → Mode → Option Nat → Language → String → Nat → Prop
  | run {name code : String} {asked caller : Option Nat} {language : Language} {max : Nat} :
      s.validate name code = .ok language → s.resolveMaxAttempts asked = .ok max →
      Opens s (.run name code asked caller) .batch caller language code max
  | start {name code : String} {asked : Option Nat} {language : Language} {max : Nat} :
      s.validate name code = .ok language → s.resolveMaxAttempts asked = .ok max →
      Opens s (.start name code asked) .paced none language code max
  | runChecked (language : Language) (code : String) (max : Nat) (caller : Option Nat) :
      Opens s (.runChecked language code max caller) .batch caller language code max
  | startChecked (language : Language) (code : String) (max : Nat) :
      Opens s (.startChecked language code max) .paced none language code max

/-- The phase of a job that has registered a session: a batch job goes on, and a paced one is answered. -/
def openedPhase (place : Nat) (summary : Summary) : Mode → Phase
  | .batch => .between place
  | .paced => .answered (.ok (.summary summary))

/-- What a request does when it arrives: the phase of its job, the register and the calls after it. -/
inductive Arrival (s : Settings) (m : Machine) (now : Time.Stamp) (bits : Nat) :
    Request → Phase → Registry → List (Option Nat × Call) → Prop
  | replied (request : Request) (answer : Answer) :
      Arrival s m now bits request (.answered answer) m.registry m.calls
  | launched {request : Request} {purpose : Purpose} {language : Language} {code : String} :
      Launches s request purpose language code →
      Arrival s m now bits request (.running purpose language code) m.registry
        (m.calls ++ [(none, .run language code)])
  | opened {request : Request} {mode : Mode} {caller : Option Nat} {language : Language} {code : String}
      {max place : Nat} {r : Registry} :
      Opens s request mode caller language code max → 1 ≤ max → max ≤ maxAttemptsCeiling →
      m.registry.insert (Session.start (SessionKey.ofBits bits) language code max now) mode caller = .ok (place, r) →
      Arrival s m now bits request
        (openedPhase place ((Session.start (SessionKey.ofBits bits) language code max now).summary now) mode)
        r m.calls
  | queued {id : String} {place : Nat} : m.registry.lookup id = .ok place →
      Arrival s m now bits (.step id) (.waiting place) (m.enqueue place m.jobs.length).registry m.calls
  | removed {id : String} {place : Nat} {r : Registry} {h : Handle} : m.registry.remove id = .ok (place, r) →
      m.registry.handles[place]? = some h →
      Arrival s m now bits (.delete id) (.answered (.ok (.summary (h.session.summary now)))) r m.calls

/-- The register after a job has left the queue of a session without an attempt. A session that still ran is given
up. -/
def left (m : Machine) (now : Time.Stamp) (place job : Nat) : Registry :=
  m.registry.modify place fun h ↦
    { h with session := h.session.finish .cancelled now, turns := h.turns.erase job }

def recorded (s : Settings) (m : Machine) (now : Time.Stamp) (place job : Nat) (a : Attempt) : Registry :=
  m.registry.modify place fun h ↦
    { h with session := h.session.extend s.config.retry.onNoFix a now, turns := h.turns.erase job }

def recordedPhase (place : Nat) (a : Attempt) : Mode → Phase
  | .batch => .between place
  | .paced => .answered (.ok (.attempt a))

/-- A fix is settled on for the failed run of a job. -/
inductive Settles (s : Settings) (answer : Answered) : Phase → Failure → Fix → Prop
  | byPrimary {f : Failure} {fix : Fix} :
      s.pipeline.afterPrimary answer = .settled fix → Settles s answer (.askingPrimary f) f fix
  | byFallback (f : Failure) (problem : String) :
      Settles s answer (.askingFallback f problem) f (s.pipeline.afterFallback problem answer)

/-- How a job moves by an action: from a phase to a phase, with the register and the calls after it. -/
inductive Progress (s : Settings) (m : Machine) (now : Time.Stamp) (job : Nat) :
    Action → Mode → Phase → Phase → Registry → List (Option Nat × Call) → Prop
  | summedUp {mode : Mode} {place : Nat} {h : Handle} : m.registry.handles[place]? = some h →
      h.session.isComplete = true →
      Progress s m now job (.proceed job) mode (.between place) (.answered (.ok (.summary (h.session.summary now))))
        (m.registry.evict h.id) m.calls
  | queued {mode : Mode} {place : Nat} {h : Handle} : m.registry.handles[place]? = some h →
      h.session.isComplete = false →
      Progress s m now job (.proceed job) mode (.between place) (.waiting place) (m.enqueue place job).registry m.calls
  | refused {place : Nat} {h : Handle} : m.registry.handles[place]? = some h → h.turns.head? = some job →
      h.session.isComplete = true ∨ m.isCancelled h = true →
      Progress s m now job (.proceed job) .paced (.waiting place)
        (.answered (.error (h.session.finish .cancelled now).refusal)) (m.left now place job) m.calls
  | ended {place : Nat} {h : Handle} : m.registry.handles[place]? = some h → h.turns.head? = some job →
      h.session.isComplete = true ∨ m.isCancelled h = true →
      Progress s m now job (.proceed job) .batch (.waiting place)
        (.answered (.ok (.summary ((h.session.finish .cancelled now).summary now))))
        ((m.left now place job).evict h.id) m.calls
  | entered {mode : Mode} {place : Nat} {h : Handle} : m.registry.handles[place]? = some h →
      h.turns.head? = some job → h.session.isComplete = false → m.isCancelled h = false →
      Progress s m now job (.proceed job) mode (.waiting place)
        (.running (.attempt place h.session.nextIndex h.session.maxAttempts now) h.session.language
          h.session.currentCode)
        m.registry (m.calls ++ [(some place, .run h.session.language h.session.currentCode)])
  | executed {mode : Mode} {language : Language} {code : String} (result : ExecutionResult) :
      Progress s m now job (.ran job result) mode (.running .execute language code)
        (.answered (.ok (.result result))) m.registry m.calls
  | passed {mode : Mode} {language : Language} {code : String} {result : ExecutionResult} : result.succeeded = true →
      Progress s m now job (.ran job result) mode (.running .debug language code)
        (.answered (.ok (.report ⟨result, [], none⟩))) m.registry m.calls
  | debugged {mode : Mode} {answer : Answered} {phase : Phase} {f : Failure} {fix : Fix} :
      Settles s answer phase f fix → f.purpose.place? = none →
      Progress s m now job (.answered job answer) mode phase
        (.answered (.ok (.report ⟨f.result, f.diagnostics, some fix⟩))) m.registry m.calls
  | askedPrimary {mode : Mode} {purpose : Purpose} {language : Language} {code : String} {result : ExecutionResult} :
      result.succeeded = false → purpose ≠ .execute →
      (∀ place index max since, purpose = .attempt place index max since → index < max) →
      Progress s m now job (.ran job result) mode (.running purpose language code)
        (.askingPrimary ⟨purpose, language, code, result, Diagnostic.scan language result.errorSignal⟩) m.registry
        (m.calls ++ [(purpose.place?, .ask .primary language code result.errorSignal)])
  | askedFallback {mode : Mode} {answer : Answered} {f : Failure} {problem : String} :
      s.pipeline.afterPrimary answer = .askFallback problem →
      Progress s m now job (.answered job answer) mode (.askingPrimary f) (.askingFallback f problem) m.registry
        (m.calls ++ [(f.purpose.place?, .ask .fallback f.language f.code f.result.errorSignal)])
  | concluded {mode : Mode} {place index max : Nat} {since : Time.Stamp} {language : Language} {code : String}
      {result : ExecutionResult} {a : Attempt} : result.succeeded = true ∨ max ≤ index →
      a = ⟨index, code, result, none,
        if result.succeeded then [] else Diagnostic.scan language result.errorSignal, since, result.succeeded⟩ →
      Progress s m now job (.ran job result) mode (.running (.attempt place index max since) language code)
        (recordedPhase place a mode) (m.recorded s now place job a) m.calls
  | settled {mode : Mode} {answer : Answered} {phase : Phase} {f : Failure} {fix : Fix} {place index max : Nat}
      {since : Time.Stamp} {a : Attempt} : Settles s answer phase f fix →
      f.purpose = .attempt place index max since →
      a = ⟨index, f.code, f.result, some fix, f.diagnostics, since, false⟩ →
      Progress s m now job (.answered job answer) mode phase (recordedPhase place a mode)
        (m.recorded s now place job a) m.calls

/-- The action does not apply: no job waits for it. -/
def Idle (m : Machine) : Action → Prop
  | .proceed job =>
    (∀ place, m.phase? job = some (.between place) → m.registry.handles[place]? = none) ∧
      ∀ place h, m.phase? job = some (.waiting place) → m.registry.handles[place]? = some h →
        h.turns.head? ≠ some job
  | .ran job _ => ∀ purpose language code, m.phase? job ≠ some (.running purpose language code)
  | .answered job _ =>
    (∀ f, m.phase? job ≠ some (.askingPrimary f)) ∧ ∀ f problem, m.phase? job ≠ some (.askingFallback f problem)
  | .arrive .. | .cancelCaller _ => False

inductive Transition (s : Settings) (m : Machine) (now : Time.Stamp) : Action → Machine → Prop
  | ignored {action : Action} : m.Idle action → Transition s m now action m
  | callerCancelled (caller : Nat) :
      Transition s m now (.cancelCaller caller) { m with cancelledCallers := caller :: m.cancelledCallers }
  | arrived {request : Request} {bits : Nat} {phase : Phase} {r : Registry} {calls : List (Option Nat × Call)} :
      Arrival s m now bits request phase r calls →
      Transition s m now (.arrive request bits) (m.arrived (modeOf request) phase r calls)
  | moved {action : Action} {job : Nat} {mode : Mode} {phase phase' : Phase} {r : Registry}
      {calls : List (Option Nat × Call)} : m.jobs[job]? = some ⟨mode, phase⟩ →
      Progress s m now job action mode phase phase' r calls →
      Transition s m now action (m.moved job phase' r calls)

section Step

variable {s : Settings} {m : Machine} {now : Time.Stamp}

theorem phase?_eq_some {job : Nat} {phase : Phase} :
    m.phase? job = some phase ↔ ∃ mode, m.jobs[job]? = some ⟨mode, phase⟩ := by
  simp only [phase?, Option.map_eq_some_iff]
  constructor
  · rintro ⟨⟨mode, _⟩, hj, rfl⟩
    exact ⟨mode, hj⟩
  · rintro ⟨mode, hj⟩
    exact ⟨_, hj, rfl⟩

theorem phase?_of_job {job : Nat} {mode : Mode} {phase : Phase} (hj : m.jobs[job]? = some ⟨mode, phase⟩) :
    m.phase? job = some phase := phase?_eq_some.2 ⟨mode, hj⟩

theorem setPhase_arriving (m : Machine) (mode : Mode) (phase phase' : Phase) :
    setPhase { m with jobs := m.jobs ++ [⟨mode, phase⟩] } m.jobs.length phase' =
      m.arrived mode phase' m.registry m.calls := by
  simp [setPhase, arrived, Places.modify_concat]

theorem conclude_arriving (m : Machine) (mode : Mode) (phase : Phase) (answer : Answer) :
    conclude { m with jobs := m.jobs ++ [⟨mode, phase⟩] } m.jobs.length answer =
      m.arrived mode (.answered answer) m.registry m.calls := setPhase_arriving m _ _ _

theorem startRun_arriving (m : Machine) (mode : Mode) (phase : Phase) {purpose : Purpose} (h : purpose.place? = none)
    (language : Language) (code : String) :
    startRun { m with jobs := m.jobs ++ [⟨mode, phase⟩] } m.jobs.length purpose language code =
      m.arrived mode (.running purpose language code) m.registry (m.calls ++ [(none, .run language code)]) := by
  simp only [startRun, setPhase_arriving, h]
  rfl

theorem register_eq_ok {bits max place : Nat} {mode : Mode} {caller : Option Nat} {language : Language}
    {code : String} {session : Session} {m' : Machine}
    (h : m.register now bits mode caller language code max = .ok (place, session, m')) :
    1 ≤ max ∧ max ≤ maxAttemptsCeiling ∧
      session = Session.start (SessionKey.ofBits bits) language code max now ∧
      ∃ r, m.registry.insert session mode caller = .ok (place, r) ∧ m' = { m with registry := r } := by
  unfold register at h
  split at h
  · cases h
  next hmax =>
    cases hi : m.registry.insert (Session.start (SessionKey.ofBits bits) language code max now) mode caller with
    | error e =>
      simp only [hi] at h
      cases h
    | ok p =>
      simp only [hi] at h
      cases h
      exact ⟨by omega, by omega, rfl, p.2, hi, rfl⟩

theorem startBatch_arrival (m : Machine) (now : Time.Stamp) (bits : Nat) {max : Nat} {caller : Option Nat}
    {language : Language} {code : String} {request : Request} (placeholder : Phase)
    (ho : Opens s request .batch caller language code max) :
    ∃ phase r calls, Arrival s m now bits request phase r calls ∧
      startBatch { m with jobs := m.jobs ++ [⟨.batch, placeholder⟩] } now m.jobs.length bits caller language code max =
        m.arrived .batch phase r calls := by
  unfold startBatch
  split
  next e he => exact ⟨_, _, _, .replied _ _, conclude_arriving m _ _ _⟩
  next place session m' he =>
    obtain ⟨hmin, hmax, rfl, r, hi, rfl⟩ := register_eq_ok he
    exact ⟨_, r, _, .opened ho hmin hmax hi, by simp [setPhase, arrived, openedPhase, Places.modify_concat]⟩

theorem startPaced_arrival (m : Machine) (now : Time.Stamp) (bits : Nat) {max : Nat} {language : Language}
    {code : String} {request : Request} (placeholder : Phase) (ho : Opens s request .paced none language code max) :
    ∃ phase r calls, Arrival s m now bits request phase r calls ∧
      startPaced { m with jobs := m.jobs ++ [⟨.paced, placeholder⟩] } now m.jobs.length bits language code max =
        m.arrived .paced phase r calls := by
  unfold startPaced
  split
  next e he => exact ⟨_, _, _, .replied _ _, conclude_arriving m _ _ _⟩
  next place session m' he =>
    obtain ⟨hmin, hmax, rfl, r, hi, rfl⟩ := register_eq_ok he
    exact ⟨_, r, _, .opened ho hmin hmax hi, by simp [conclude, setPhase, arrived, openedPhase, Places.modify_concat]⟩

theorem arrive_arrival (s : Settings) (m : Machine) (now : Time.Stamp) (request : Request) (bits : Nat) :
    ∃ phase r calls, Arrival s m now bits request phase r calls ∧
      step s m now (.arrive request bits) = m.arrived (modeOf request) phase r calls := by
  simp only [step]
  -- `simp` would first have to prove the equations of `begin`, which takes long
  delta begin
  cases request with
  | execute name code =>
    dsimp only
    split
    next e he => exact ⟨_, _, _, .replied _ _, conclude_arriving _ _ _ _⟩
    next language hv => exact ⟨_, _, _, .launched (.execute hv), startRun_arriving _ _ _ rfl _ _⟩
  | debug name code =>
    dsimp only
    split
    next e he => exact ⟨_, _, _, .replied _ _, conclude_arriving _ _ _ _⟩
    next language hv => exact ⟨_, _, _, .launched (.debug hv), startRun_arriving _ _ _ rfl _ _⟩
  | run name code asked caller =>
    dsimp only
    split
    · exact ⟨_, _, _, .replied _ _, conclude_arriving _ _ _ _⟩
    · exact ⟨_, _, _, .replied _ _, conclude_arriving _ _ _ _⟩
    next language max hv hr => exact startBatch_arrival m now bits _ (.run hv hr)
  | start name code asked =>
    dsimp only
    split
    · exact ⟨_, _, _, .replied _ _, conclude_arriving _ _ _ _⟩
    · exact ⟨_, _, _, .replied _ _, conclude_arriving _ _ _ _⟩
    next language max hv hr => exact startPaced_arrival m now bits _ (.start hv hr)
  | runChecked language code max caller =>
    exact startBatch_arrival m now bits _ (.runChecked language code max caller)
  | startChecked language code max =>
    exact startPaced_arrival m now bits _ (.startChecked language code max)
  | step id =>
    dsimp only
    split
    next e he => exact ⟨_, _, _, .replied _ _, conclude_arriving _ _ _ _⟩
    next place hl =>
      refine ⟨_, _, _, .queued hl, ?_⟩
      simp only [enqueue, setPhase, arrived, Places.modify_concat]
  | get id =>
    dsimp only
    split
    next e he => exact ⟨_, _, _, .replied _ _, conclude_arriving _ _ _ _⟩
    · split
      · exact ⟨_, _, _, .replied _ _, rfl⟩
      · exact ⟨_, _, _, .replied _ _, conclude_arriving _ _ _ _⟩
  | delete id =>
    dsimp only
    split
    next e he => exact ⟨_, _, _, .replied _ _, conclude_arriving _ _ _ _⟩
    next place r hr =>
      split
      · exact ⟨_, _, _, .replied _ _, rfl⟩
      next h hh =>
        refine ⟨_, _, _, .removed hr hh, ?_⟩
        simp only [conclude, setPhase, arrived, Places.modify_concat]
  | list => exact ⟨_, _, _, .replied _ _, conclude_arriving _ _ _ _⟩

section Progress

variable {mode : Mode} {phase : Phase} {job place : Nat} {h : Handle}

theorem concludeBatch_moved (hh : m.registry.handles[place]? = some h) :
    m.concludeBatch now job place =
      m.moved job (.answered (.ok (.summary (h.session.summary now)))) (m.registry.evict h.id) m.calls := by
  simp only [concludeBatch, hh, Registry.evict]
  cases m.registry.remove h.id <;> rfl

theorem refuse_progress (s : Settings) (now : Time.Stamp) (hj : m.jobs[job]? = some ⟨mode, .waiting place⟩)
    (hh : m.registry.handles[place]? = some h) (ht : h.turns.head? = some job)
    (ho : h.session.isComplete = true ∨ m.isCancelled h = true) :
    ∃ phase' r, Progress s m now job (.proceed job) mode (.waiting place) phase' r m.calls ∧
      (m.modifySession place (·.finish .cancelled now)).refuse now job place
        (h.session.finish .cancelled now).refusal = m.moved job phase' r m.calls := by
  have hleft : (m.modifySession place (·.finish .cancelled now)).dequeue place job =
      { m with registry := m.left now place job } := by
    simp only [modifySession, dequeue, left, Registry.modify_modify]
  cases mode with
  | paced => exact ⟨_, _, .refused hh ht ho, by simp only [refuse, hleft, hj]; rfl⟩
  | batch =>
    refine ⟨_, _, .ended hh ht ho, ?_⟩
    have hh' : (m.left now place job).handles[place]? =
        some { h with session := h.session.finish .cancelled now, turns := h.turns.erase job } := by
      simp [left, Registry.modify, hh]
    simp only [refuse, hleft, hj]
    rw [concludeBatch_moved hh']
    rfl

theorem enter_progress (s : Settings) (now : Time.Stamp) (hj : m.jobs[job]? = some ⟨mode, .waiting place⟩)
    (hh : m.registry.handles[place]? = some h) (ht : h.turns.head? = some job) :
    ∃ phase' r calls, Progress s m now job (.proceed job) mode (.waiting place) phase' r calls ∧
      m.enter now job place h = m.moved job phase' r calls := by
  have hover (hc : h.session.isComplete = true) : m.modifySession place (·.finish .cancelled now) = m := by
    have hfix : { h with session := h.session.finish .cancelled now } = h := by
      rw [Session.finish_of_complete _ _ hc]
    rw [modifySession, Registry.modify_of_fixed hh hfix]
  unfold enter
  split
  next hs =>
    have hc : h.session.isComplete = true := by simp [Session.isComplete_iff, hs]
    obtain ⟨phase', r, hp, he⟩ := refuse_progress s now hj hh ht (.inl hc)
    rw [hover hc, Session.finish_of_complete _ _ hc] at he
    exact ⟨phase', r, _, hp, by simpa [Session.refusal, hs] using he⟩
  next hs =>
    split
    next hc =>
      obtain ⟨phase', r, hp, he⟩ := refuse_progress s now hj hh ht (.inl hc)
      rw [hover hc, Session.finish_of_complete _ _ hc] at he
      exact ⟨phase', r, _, hp, by simpa [Session.refusal, hs] using he⟩
    next hc =>
      have hrun : h.session.state = .running := by simpa [Session.isComplete_eq_false_iff] using hc
      split
      next hx =>
        obtain ⟨phase', r, hp, he⟩ := refuse_progress s now hj hh ht (.inr hx)
        refine ⟨phase', r, _, hp, ?_⟩
        rw [← he, Session.finish_of_running _ _ hrun]
        rfl
      next hx =>
        exact ⟨_, _, _, .entered hh ht (by simpa using hc) (by simpa using hx), rfl⟩

theorem proceed_transition (s : Settings) (m : Machine) (now : Time.Stamp) (job : Nat) :
    Transition s m now (.proceed job) (m.proceed now job) := by
  unfold proceed
  split
  next mode place hj =>
    split
    next hh =>
      refine .ignored ⟨fun q hq ↦ ?_, fun q h hq ↦ ?_⟩ <;> rw [phase?_of_job hj] at hq <;> cases hq
      exact hh
    next h hh =>
      split
      next hc =>
        rw [concludeBatch_moved hh]
        exact .moved hj (.summedUp hh hc)
      next hc => exact .moved hj (.queued hh (by simpa using hc))
  next mode place hj =>
    split
    next hh =>
      refine .ignored ⟨fun q hq ↦ ?_, fun q h hq hh' ↦ ?_⟩ <;> rw [phase?_of_job hj] at hq <;> cases hq
      rw [hh] at hh'; cases hh'
    next h hh =>
      split
      next ht =>
        obtain ⟨phase', r, calls, hp, he⟩ := enter_progress s now hj hh ht
        rw [he]
        exact .moved hj hp
      next ht =>
        refine .ignored ⟨fun q hq ↦ ?_, fun q h' hq hh' ↦ ?_⟩ <;> rw [phase?_of_job hj] at hq <;> cases hq
        rw [hh] at hh'; cases hh'
        exact ht
  next hb hw =>
    refine .ignored ⟨fun q hq ↦ ?_, fun q h hq ↦ ?_⟩ <;> obtain ⟨mode, hj⟩ := phase?_eq_some.1 hq
    · exact (hb mode q hj).elim
    · exact (hw mode q hj).elim

theorem recordAttempt_moved (hj : m.jobs[job]? = some ⟨mode, phase⟩) (a : Attempt) :
    m.recordAttempt now job place a a.replacement? (a.outcome s.config.retry.onNoFix) =
      m.moved job (recordedPhase place a mode) (m.recorded s now place job a) m.calls := by
  have hrec : (m.modifySession place (·.record a a.replacement? (a.outcome s.config.retry.onNoFix) now)).dequeue
      place job = { m with registry := m.recorded s now place job a } := by
    simp only [modifySession, dequeue, recorded, Registry.modify_modify]
    rfl
  simp only [recordAttempt, hrec, hj]
  cases mode <;> rfl

theorem finishRun_concluded {index max : Nat} {since : Time.Stamp} {language : Language} {code : String}
    {result : ExecutionResult} (s : Settings)
    (hj : m.jobs[job]? = some ⟨mode, .running (.attempt place index max since) language code⟩)
    (ho : result.succeeded = true ∨ max ≤ index) :
    Transition s m now (.ran job result)
      (m.finishRun now job (.attempt place index max since) language code result) := by
  let a : Attempt := ⟨index, code, result, none,
    if result.succeeded then [] else Diagnostic.scan language result.errorSignal, since, result.succeeded⟩
  have he : m.finishRun now job (.attempt place index max since) language code result =
      m.recordAttempt now job place a a.replacement? (a.outcome s.config.retry.onNoFix) := by
    cases hr : result.succeeded with
    | true => simp [finishRun, hr, a, Attempt.replacement?, Attempt.outcome]
    | false =>
      have hle : max ≤ index := ho.resolve_left (by simp [hr])
      simp [finishRun, hr, hle, a, Attempt.replacement?, Attempt.outcome]
  rw [he, recordAttempt_moved hj]
  exact .moved hj (.concluded ho rfl)

theorem finishRun_transition {purpose : Purpose} {language : Language} {code : String} (s : Settings)
    (hj : m.jobs[job]? = some ⟨mode, .running purpose language code⟩) (result : ExecutionResult) :
    Transition s m now (.ran job result) (m.finishRun now job purpose language code result) := by
  cases purpose with
  | execute => exact .moved hj (.executed result)
  | debug =>
    cases hr : result.succeeded with
    | true =>
      simp only [finishRun, hr, if_true]
      exact .moved hj (.passed hr)
    | false =>
      simp only [finishRun, hr, Bool.false_eq_true, if_false]
      exact .moved hj (.askedPrimary hr (by simp) (by simp))
  | attempt place index max since =>
    by_cases ho : result.succeeded = true ∨ max ≤ index
    · exact finishRun_concluded s hj ho
    · have hr : result.succeeded = false := by simpa using fun h ↦ ho (.inl h)
      have hlt : ¬ max ≤ index := fun h ↦ ho (.inr h)
      simp only [finishRun, hr, hlt, Bool.false_eq_true, if_false]
      refine .moved hj (.askedPrimary hr (by simp) fun place index max since hp ↦ ?_)
      cases hp
      omega

theorem settle_transition {f : Failure} {fix : Fix} {answer : Answered} (hj : m.jobs[job]? = some ⟨mode, phase⟩)
    (hs : Settles s answer phase f fix) :
    Transition s m now (.answered job answer) (settle s m now job f fix) := by
  have hdebug (hp : f.purpose.place? = none) :
      Transition s m now (.answered job answer) (m.conclude job (.ok (.report ⟨f.result, f.diagnostics, some fix⟩))) :=
    .moved hj (.debugged hs hp)
  unfold settle
  split
  next place index max since hp =>
    let a : Attempt := ⟨index, f.code, f.result, some fix, f.diagnostics, since, false⟩
    have hrec : Transition s m now (.answered job answer)
        (m.recordAttempt now job place a a.replacement? (a.outcome s.config.retry.onNoFix)) := by
      rw [recordAttempt_moved hj]
      exact .moved hj (.settled hs hp rfl)
    cases hu : fix.isUsable with
    | true => simpa [a, Attempt.replacement?, Attempt.outcome, hu] using hrec
    | false =>
      cases hn : s.config.retry.onNoFix with
      | retryUnchanged => simpa [a, Attempt.replacement?, Attempt.outcome, hu, hn] using hrec
      | abort => simpa [a, Attempt.replacement?, Attempt.outcome, hu, hn] using hrec
  next hp =>
    refine hdebug ?_
    cases hf : f.purpose with
    | execute => rfl
    | debug => rfl
    | attempt place index max since => exact absurd hf (hp place index max since)

/-- Every action does what the relation says. -/
theorem step_transition (s : Settings) (m : Machine) (now : Time.Stamp) (action : Action) :
    Transition s m now action (step s m now action) := by
  cases action with
  | arrive request bits =>
    obtain ⟨phase, r, calls, ha, he⟩ := arrive_arrival s m now request bits
    rw [he]
    exact .arrived ha
  | proceed job => exact proceed_transition s m now job
  | ran job result =>
    simp only [step]
    split
    next mode purpose language code hj => exact finishRun_transition s hj result
    next hr =>
      refine .ignored fun purpose language code hp ↦ ?_
      obtain ⟨mode, hj⟩ := phase?_eq_some.1 hp
      exact hr mode purpose language code hj
  | answered job answer =>
    simp only [step]
    split
    next mode f hj =>
      split
      next fix ha => exact settle_transition hj (.byPrimary ha)
      next problem ha => exact .moved hj (.askedFallback ha)
    next mode f problem hj => exact settle_transition hj (.byFallback f problem)
    next hp hf =>
      refine .ignored ⟨fun f hq ↦ ?_, fun f problem hq ↦ ?_⟩ <;> obtain ⟨mode, hj⟩ := phase?_eq_some.1 hq
      · exact hp mode f hj
      · exact hf mode f problem hj
  | cancelCaller caller => exact .callerCancelled caller

end Progress

end Step

theorem run_append (s : Settings) (m : Machine) (events events' : List (Time.Stamp × Action)) :
    m.run s (events ++ events') = (m.run s events).run s events' := by
  simp [run, List.foldl_append]

/-- What each of the actions keeps, all of them keep. -/
theorem run_invariant {P : Machine → Prop} {s : Settings} {m : Machine} (events : List (Time.Stamp × Action))
    (hm : P m) (hstep : ∀ m', P m' → ∀ e ∈ events, P (m'.step s e.1 e.2)) : P (m.run s events) :=
  List.foldlRecOn events _ hm hstep

/-- A batch session whose first attempt fails and whose second runs the provider's fix and succeeds. -/
def mending : List (Time.Stamp × Action) :=
  [(⟨0, 0⟩, .arrive (.run "python" "print(1" none none) 7), (⟨1, 0⟩, .proceed 0), (⟨1, 0⟩, .proceed 0),
   (⟨2, 0⟩, .ran 0 (.runtimeFailure "" "SyntaxError: '(' was never closed" (some 1))),
   (⟨3, 0⟩, .answered 0 (.proposal ⟨"The bracket was open.", "print(1)", none⟩)),
   (⟨3, 0⟩, .proceed 0), (⟨3, 0⟩, .proceed 0), (⟨4, 0⟩, .ran 0 (.success "1" "")), (⟨4, 0⟩, .proceed 0)]

end Machine

/-- A service with the default configuration and one provider. -/
def Settings.plain : Settings := ⟨.default, ⟨"gemini", "gemini-3-flash-preview", false⟩, none⟩

end CodeRepair

import CodeRepair.Diagnostic.Scan
import CodeRepair.Report
import CodeRepair.Service.Admission
import CodeRepair.Session.Registry

/-!
A service with everything that is under way in it. Each request is a job; a job moves by actions, each of which
takes effect at once. An action stands for the arrival of a request, for a step of a job that needs nothing from
outside, for the end of a run, for the answer of a provider, or for the cancellation of a caller's token. A
sequence of actions is one interleaving of all that happens, and an action that does not apply changes nothing.
-/
namespace CodeRepair

inductive Call
  | run (language : Language) (code : String)
  | ask (role : Role) (language : Language) (code error : String)
  deriving DecidableEq, Repr, Inhabited

/-- What is asked of the service. `runChecked` and `startChecked` go past the checks on language and code. -/
inductive Request
  | execute (language code : String)
  | debug (language code : String)
  | run (language code : String) (max : Option Nat) (caller : Option Nat)
  | start (language code : String) (max : Option Nat)
  | runChecked (language : Language) (code : String) (max : Nat) (caller : Option Nat)
  | startChecked (language : Language) (code : String) (max : Nat)
  | step (id : String)
  | get (id : String)
  | delete (id : String)
  | list
  deriving DecidableEq, Repr, Inhabited

inductive Payload
  | result (r : ExecutionResult)
  | report (r : Report)
  | attempt (a : Attempt)
  | summary (s : Summary)
  | summaries (ss : List Summary)
  deriving Repr, Inhabited

abbrev Answer := Except SessionError Payload

/-- Why a program is run. -/
inductive Purpose
  | execute
  | debug
  /-- For the attempt with this index, of at most `max`, of the session at a place. -/
  | attempt (place index max : Nat) (since : Time.Stamp)
  deriving DecidableEq, Repr, Inhabited

/-- A failed run for which a fix is asked. -/
structure Failure where
  purpose : Purpose
  language : Language
  code : String
  result : ExecutionResult
  diagnostics : List Diagnostic
  deriving Repr, Inhabited

/-- Where a job stands. -/
inductive Phase
  /-- Between the attempts of the session at a place. -/
  | between (place : Nat)
  | waiting (place : Nat)
  | running (purpose : Purpose) (language : Language) (code : String)
  | askingPrimary (failure : Failure)
  | askingFallback (failure : Failure) (problem : String)
  | answered (answer : Answer)
  deriving Repr, Inhabited

/-- A request that is being served. -/
structure Job where
  mode : Mode
  phase : Phase
  deriving Repr, Inhabited

/-- A service with its jobs. `calls` holds the calls made so far, each with the place of its session. -/
structure Machine where
  registry : Registry
  jobs : List Job
  cancelledCallers : List Nat
  calls : List (Option Nat × Call)
  deriving Repr, Inhabited

/-- What can happen. A request brings the bits for the id of a session. No action drops a request that is being served:
a call, once begun, is always carried on. -/
inductive Action
  | arrive (request : Request) (bits : Nat)
  | proceed (job : Nat)
  | ran (job : Nat) (result : ExecutionResult)
  | answered (job : Nat) (answer : Answered)
  | cancelCaller (caller : Nat)
  deriving Repr, Inhabited

def Purpose.place? : Purpose → Option Nat
  | .attempt place .. => some place
  | _ => none

namespace Machine

def start (s : Settings) : Machine := ⟨.empty s.config.retry.maxSessions, [], [], []⟩

def setPhase (m : Machine) (job : Nat) (phase : Phase) : Machine :=
  { m with jobs := m.jobs.modify job fun j ↦ { j with phase := phase } }

def conclude (m : Machine) (job : Nat) (answer : Answer) : Machine := m.setPhase job (.answered answer)

def log (m : Machine) (place : Option Nat) (call : Call) : Machine :=
  { m with calls := m.calls ++ [(place, call)] }

def modifySession (m : Machine) (place : Nat) (f : Session → Session) : Machine :=
  { m with registry := m.registry.modify place fun h ↦ { h with session := f h.session } }

def enqueue (m : Machine) (place job : Nat) : Machine :=
  { m with registry := m.registry.modify place fun h ↦ { h with turns := h.turns ++ [job] } }

def dequeue (m : Machine) (place job : Nat) : Machine :=
  { m with registry := m.registry.modify place fun h ↦ { h with turns := h.turns.erase job } }

/-- Whether the token of a session is cancelled, by itself or through its caller. -/
def isCancelled (m : Machine) (h : Handle) : Bool :=
  h.cancelled ||
    match h.caller with
    | some caller => caller ∈ m.cancelledCallers
    | none => false

def concludeBatch (m : Machine) (now : Time.Stamp) (job place : Nat) : Machine :=
  match m.registry.handles[place]? with
  | none => m
  | some h =>
    let registry :=
      -- A session that was taken off meanwhile is answered all the same.
      match m.registry.remove h.id with
      | .ok (_, registry) => registry
      | .error _ => m.registry
    { m with registry := registry }.conclude job (.ok (.summary (h.session.summary now)))

/-- A new session is registered, when its budget is within the ceiling and there is room for it. -/
def register (m : Machine) (now : Time.Stamp) (bits : Nat) (mode : Mode) (caller : Option Nat)
    (language : Language) (code : String) (max : Nat) : Except SessionError (Nat × Session × Machine) := do
  if max < 1 ∨ maxAttemptsCeiling < max then throw (.request (.invalidMaxAttempts max maxAttemptsCeiling))
  let session := Session.start (SessionKey.ofBits bits) language code max now
  let (place, registry) ← m.registry.insert session mode caller
  return (place, session, { m with registry := registry })

def startBatch (m : Machine) (now : Time.Stamp) (job bits : Nat) (caller : Option Nat) (language : Language)
    (code : String) (max : Nat) : Machine :=
  match m.register now bits .batch caller language code max with
  | .error e => m.conclude job (.error e)
  | .ok (place, _, m) => m.setPhase job (.between place)

def startPaced (m : Machine) (now : Time.Stamp) (job bits : Nat) (language : Language) (code : String)
    (max : Nat) : Machine :=
  match m.register now bits .paced none language code max with
  | .error e => m.conclude job (.error e)
  | .ok (_, session, m) => m.conclude job (.ok (.summary (session.summary now)))

def startRun (m : Machine) (job : Nat) (purpose : Purpose) (language : Language) (code : String) : Machine :=
  (m.setPhase job (.running purpose language code)).log purpose.place? (.run language code)

def begin (s : Settings) (m : Machine) (now : Time.Stamp) (job bits : Nat) : Request → Machine
  | .execute language code =>
    match s.validate language code with
    | .error e => m.conclude job (.error (.request e))
    | .ok language => m.startRun job .execute language code
  | .debug language code =>
    match s.validate language code with
    | .error e => m.conclude job (.error (.request e))
    | .ok language => m.startRun job .debug language code
  | .run language code max caller =>
    match s.validate language code, s.resolveMaxAttempts max with
    | .error e, _ | .ok _, .error e => m.conclude job (.error (.request e))
    | .ok language, .ok max => m.startBatch now job bits caller language code max
  | .start language code max =>
    match s.validate language code, s.resolveMaxAttempts max with
    | .error e, _ | .ok _, .error e => m.conclude job (.error (.request e))
    | .ok language, .ok max => m.startPaced now job bits language code max
  | .runChecked language code max caller => m.startBatch now job bits caller language code max
  | .startChecked language code max => m.startPaced now job bits language code max
  | .step id =>
    match m.registry.lookup id with
    | .error e => m.conclude job (.error e)
    | .ok place => (m.enqueue place job).setPhase job (.waiting place)
  | .get id =>
    match m.registry.lookup id with
    | .error e => m.conclude job (.error e)
    | .ok place =>
      match m.registry.handles[place]? with
      | none => m
      | some h => m.conclude job (.ok (.summary (h.session.summary now)))
  | .delete id =>
    match m.registry.remove id with
    | .error e => m.conclude job (.error e)
    | .ok (place, registry) =>
      match m.registry.handles[place]? with
      | none => m
      | some h => { m with registry := registry }.conclude job (.ok (.summary (h.session.summary now)))
  | .list => m.conclude job (.ok (.summaries (m.registry.list now)))

def modeOf : Request → Mode
  | .run .. | .runChecked .. => .batch
  | _ => .paced

/-- An attempt is refused: a batch job ends, another one is answered so. -/
def refuse (m : Machine) (now : Time.Stamp) (job place : Nat) (e : SessionError) : Machine :=
  let m := m.dequeue place job
  match m.jobs[job]? with
  | some ⟨.batch, _⟩ => m.concludeBatch now job place
  | _ => m.conclude job (.error e)

/-- A job has its turn: the attempt starts unless the session is over or cancelled. -/
def enter (m : Machine) (now : Time.Stamp) (job place : Nat) (h : Handle) : Machine :=
  if h.session.state = .cancelled then m.refuse now job place (.cancelled h.session.id)
  else if h.session.isComplete then m.refuse now job place (.alreadyComplete h.session.id)
  -- The token counts between attempts only: what is under way is not broken off.
  else if m.isCancelled h then
    (m.modifySession place (·.finish .cancelled now)).refuse now job place (.cancelled h.session.id)
  else
    m.startRun job (.attempt place h.session.nextIndex h.session.maxAttempts now) h.session.language
      h.session.currentCode

def proceed (m : Machine) (now : Time.Stamp) (job : Nat) : Machine :=
  match m.jobs[job]? with
  | some ⟨_, .between place⟩ =>
    match m.registry.handles[place]? with
    | none => m
    | some h =>
      if h.session.isComplete then m.concludeBatch now job place
      else (m.enqueue place job).setPhase job (.waiting place)
  | some ⟨_, .waiting place⟩ =>
    match m.registry.handles[place]? with
    | none => m
    | some h => if h.turns.head? = some job then m.enter now job place h else m
  | _ => m

/-- An attempt is recorded, its turn is over, and its job goes on or is answered. -/
def recordAttempt (m : Machine) (now : Time.Stamp) (job place : Nat) (attempt : Attempt)
    (nextCode : Option String) (outcome : Option SessionState) : Machine :=
  let m := (m.modifySession place (·.record attempt nextCode outcome now)).dequeue place job
  match m.jobs[job]? with
  -- A batch job looks at its session once more, even when this attempt has decided it.
  | some ⟨.batch, _⟩ => m.setPhase job (.between place)
  | _ => m.conclude job (.ok (.attempt attempt))

def settle (s : Settings) (m : Machine) (now : Time.Stamp) (job : Nat) (f : Failure) (fix : Fix) : Machine :=
  match f.purpose with
  | .attempt place index _ since =>
    let attempt : Attempt := ⟨index, f.code, f.result, some fix, f.diagnostics, since, false⟩
    if fix.isUsable then m.recordAttempt now job place attempt (some fix.fixedCode) none
    else
      match s.config.retry.onNoFix with
      | .retryUnchanged => m.recordAttempt now job place attempt none none
      | .abort => m.recordAttempt now job place attempt none (some .aborted)
  | _ => m.conclude job (.ok (.report ⟨f.result, f.diagnostics, some fix⟩))

def askPrimary (m : Machine) (job : Nat) (f : Failure) : Machine :=
  (m.setPhase job (.askingPrimary f)).log f.purpose.place? (.ask .primary f.language f.code f.result.errorSignal)

def askFallback (m : Machine) (job : Nat) (f : Failure) (problem : String) : Machine :=
  (m.setPhase job (.askingFallback f problem)).log f.purpose.place?
    (.ask .fallback f.language f.code f.result.errorSignal)

def finishRun (m : Machine) (now : Time.Stamp) (job : Nat) (purpose : Purpose) (language : Language)
    (code : String) (result : ExecutionResult) : Machine :=
  let diagnostics := if result.succeeded then [] else Diagnostic.scan language result.errorSignal
  match purpose with
  | .execute => m.conclude job (.ok (.result result))
  | .debug =>
    if result.succeeded then m.conclude job (.ok (.report ⟨result, [], none⟩))
    else m.askPrimary job ⟨purpose, language, code, result, diagnostics⟩
  | .attempt place index max since =>
    if result.succeeded then
      m.recordAttempt now job place ⟨index, code, result, none, [], since, true⟩ none (some .succeeded)
    -- No fix is asked for when no attempt can follow.
    else if max ≤ index then
      m.recordAttempt now job place ⟨index, code, result, none, diagnostics, since, false⟩ none (some .exhausted)
    else m.askPrimary job ⟨purpose, language, code, result, diagnostics⟩

def step (s : Settings) (m : Machine) (now : Time.Stamp) : Action → Machine
  | .arrive request bits =>
    let job := m.jobs.length
    -- The job is put down with an answer that the beginning of its request overwrites at once.
    begin s { m with jobs := m.jobs ++ [⟨modeOf request, .answered (.error default)⟩] } now job bits request
  | .proceed job => m.proceed now job
  | .ran job result =>
    match m.jobs[job]? with
    | some ⟨_, .running purpose language code⟩ => m.finishRun now job purpose language code result
    | _ => m
  | .answered job answer =>
    match m.jobs[job]? with
    | some ⟨_, .askingPrimary f⟩ =>
      match s.pipeline.afterPrimary answer with
      | .settled fix => settle s m now job f fix
      | .askFallback problem => m.askFallback job f problem
    | some ⟨_, .askingFallback f problem⟩ =>
      settle s m now job f (s.pipeline.afterFallback problem answer)
    | _ => m
  | .cancelCaller caller => { m with cancelledCallers := caller :: m.cancelledCallers }

def run (s : Settings) (m : Machine) (events : List (Time.Stamp × Action)) : Machine :=
  events.foldl (fun m e ↦ step s m e.1 e.2) m

end Machine

end CodeRepair

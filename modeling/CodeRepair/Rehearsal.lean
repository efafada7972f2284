import CodeRepair.Service.Machine

/-!
A service played against a script. The runner and the providers answer from lists, after delays on a clock that
moves only when everything waits; what they see and do is noted in order. So every run of a rehearsal with the
same script is the same.
-/
namespace CodeRepair.Rehearsal

inductive Act
  | cancel
  | list
  | removeAll
  deriving DecidableEq, Repr, Inhabited

/-- How an answer is given: after how many milliseconds, and after what acts. -/
structure Cue where
  delayMs : Nat
  acts : List Act
  deriving Repr, Inhabited

structure RunCue where
  cue : Cue
  result : ExecutionResult
  deriving Repr, Inhabited

/-- A scripted answer of a provider; none when it never answers. -/
structure ReplyCue where
  cue : Cue
  answer : Option Answered
  deriving Repr, Inhabited

/-- The runner's script: the first rule whose text occurs in the code, otherwise the next entry of the list, the
last of which repeats. -/
structure RunnerScript where
  rules : List (String × RunCue)
  entries : List RunCue
  deriving Repr, Inhabited

/-- A service and the script it is played against. -/
structure Scene where
  settings : Settings
  runner : RunnerScript
  primary : List ReplyCue
  fallback : List ReplyCue

def Cue.patient (c : Cue) : Cue := { c with acts := c.acts.filter (· ≠ .cancel) }

def Scene.patient (s : Scene) : Scene :=
  let run (c : RunCue) : RunCue := { c with cue := c.cue.patient }
  let reply (c : ReplyCue) : ReplyCue := { c with cue := c.cue.patient }
  { s with
    runner := ⟨s.runner.rules.map fun r ↦ (r.1, run r.2), s.runner.entries.map run⟩
    primary := s.primary.map reply
    fallback := s.fallback.map reply }

structure Row where
  id : String
  state : SessionState
  attempts : Nat
  code : String
  deriving Repr, Inhabited

inductive Note
  | call (c : Call)
  | rows (rows : List Row)
  | removed (id : String) (succeeded : Bool)
  deriving Repr, Inhabited

/-- What can be asked of a service: what is answered at once, or a request. A request for a batch session may
come with a token that is cancelled already. -/
inductive Ask
  | check (code : String)
  | validate (language code : String)
  | resolve (max : Option Nat)
  | count
  | request (r : Request) (cancelled : Bool)
  deriving Repr, Inhabited

inductive Told
  | verdict (v : SafetyVerdict)
  | language (l : Except RequestError Language)
  | budget (n : Except RequestError Nat)
  | counts (all paced capacity : Nat)
  | answer (a : Answer)
  | nothing
  deriving Inhabited

inductive Event
  | arrive (index : Nat) (ask : Ask) (bits : Nat)
  | deliver (acts : List Act) (action : Action)
  deriving Inhabited

/-- The state of a rehearsal. `agenda` holds what is due later, `urgent` what is due now. -/
structure State where
  machine : Machine
  clockMs : Nat
  ticks : Nat
  runnerUsed : Nat
  primaryUsed : Nat
  fallbackUsed : Nat
  caller : Option Nat
  urgent : List Event
  agenda : List (Nat × Event)
  /-- What was noted, the last first. -/
  notes : List Note
  told : List (Nat × Told)
  jobs : List (Nat × Nat)
  deriving Inhabited

namespace State

def start (scene : Scene) : State := ⟨.start scene.settings, 0, 0, 0, 0, 0, none, [], [], [], [], []⟩

/-- The instant of the next action. Every action has its own. -/
def now (st : State) : Time.Stamp := .ofMicros st.ticks

end State

/-- An entry of a list, the last of which repeats. -/
def cueAt? {α : Type} (entries : List α) (n : Nat) : Option α := entries[n]? <|> entries.getLast?

def RunnerScript.pick (r : RunnerScript) (used : Nat) (code : String) : RunCue × Nat :=
  match r.rules.find? fun rule ↦ Text.occursIn rule.1 code with
  | some (_, cue) => (cue, used)
  | none => ((cueAt? r.entries used).getD ⟨⟨0, []⟩, .internal .run "script empty"⟩, used + 1)

def pickReply (entries : List ReplyCue) (used : Nat) : ReplyCue :=
  (cueAt? entries used).getD ⟨⟨0, []⟩, some (.failed "script empty")⟩

/-- When a provider's answer comes and what it is: nothing comes of one that is later than allowed. -/
def ReplyCue.within (r : ReplyCue) (timeoutMs : Nat) : Nat × List Act × Answered :=
  let comes := r.answer.isSome && r.cue.delayMs ≤ timeoutMs
  (if comes then r.cue.delayMs else timeoutMs, if comes then r.cue.acts else [],
    .within timeoutMs r.cue.delayMs r.answer)

def rows (r : Registry) : List Row :=
  r.newestFirst.map fun h ↦ ⟨h.session.id, h.session.state, h.session.attempts.length, h.session.currentCode⟩

namespace State

def schedule (st : State) (delayMs : Nat) (event : Event) : State :=
  if delayMs = 0 then { st with urgent := st.urgent ++ [event] }
  else { st with agenda := st.agenda ++ [(st.clockMs + delayMs, event)] }

def placeCall (scene : Scene) (st : State) (job : Nat) (call : Call) : State :=
  let st := { st with notes := .call call :: st.notes }
  match call with
  | .run _ code =>
    let (cue, used) := scene.runner.pick st.runnerUsed code
    { st with runnerUsed := used }.schedule cue.cue.delayMs (.deliver cue.cue.acts (.ran job cue.result))
  | .ask .primary .. =>
    let (delay, acts, answer) := (pickReply scene.primary st.primaryUsed).within scene.settings.pipeline.timeoutMs
    { st with primaryUsed := st.primaryUsed + 1 }.schedule delay (.deliver acts (.answered job answer))
  | .ask .fallback .. =>
    let (delay, acts, answer) := (pickReply scene.fallback st.fallbackUsed).within scene.settings.pipeline.timeoutMs
    { st with fallbackUsed := st.fallbackUsed + 1 }.schedule delay (.deliver acts (.answered job answer))

def act (scene : Scene) (st : State) (job : Nat) (action : Action) : State :=
  let before := st.machine.calls.length
  let machine := Machine.step scene.settings st.machine st.now action
  let st := { st with machine := machine, ticks := st.ticks + 1 }
  (machine.calls.drop before).foldl (fun st c ↦ st.placeCall scene job c.2) st

def removeAll (scene : Scene) (st : State) : State :=
  (rows st.machine.registry).foldl
    (fun st row ↦
      let job := st.machine.jobs.length
      let st := st.act scene job (.arrive (.delete row.id) 0)
      let ok :=
        match st.machine.jobs[job]? with
        | some ⟨_, .answered (.ok _)⟩ => true
        | _ => false
      { st with notes := .removed row.id ok :: st.notes })
    st

def perform (scene : Scene) (st : State) : Act → State
  | .cancel =>
    match st.caller with
    | some caller => st.act scene st.machine.jobs.length (.cancelCaller caller)
    | none => st
  | .list => { st with notes := .rows (rows st.machine.registry) :: st.notes }
  | .removeAll => st.removeAll scene

def tell (st : State) (index : Nat) (told : Told) : State := { st with told := (index, told) :: st.told }

def happen (scene : Scene) (st : State) : Event → State
  | .deliver acts action =>
    let st := acts.foldl (fun st a ↦ st.perform scene a) st
    match action with
    -- Only answers of the outside are on the agenda; the jobs' own steps are taken as soon as they can be.
    | .ran job _ | .answered job _ => st.act scene job action
    | _ => st
  | .arrive index ask bits =>
    match ask with
    | .check code => st.tell index (.verdict (scene.settings.gate.check code))
    | .validate language code => st.tell index (.language (scene.settings.validate language code))
    | .resolve max => st.tell index (.budget (scene.settings.resolveMaxAttempts max))
    | .count =>
      let r := st.machine.registry
      st.tell index (.counts r.count r.pacedCount r.capacity)
    | .request request cancelled =>
      let job := st.machine.jobs.length
      let st :=
        match request with
        | .run _ _ _ (some caller) | .runChecked _ _ _ (some caller) =>
          let st := { st with caller := some caller }
          if cancelled then st.act scene job (.cancelCaller caller) else st
        | _ => st
      { st with jobs := (index, job) :: st.jobs }.act scene job (.arrive request bits)

def canProceed (m : Machine) (job : Nat) : Bool :=
  match m.jobs[job]? with
  | some ⟨_, .between _⟩ => true
  | some ⟨_, .waiting place⟩ =>
    match m.registry.handles[place]? with
    | some h => h.turns.head? = some job
    | none => false
  | _ => false

def earliest? : List (Nat × Event) → Option ((Nat × Event) × List (Nat × Event))
  | [] => none
  | e :: rest =>
    match earliest? rest with
    | none => some (e, [])
    | some (x, others) => if x.1 < e.1 then some (x, e :: others) else some (e, rest)

/-- Everything that is due takes place, in order of time, until nothing is left. -/
def play (scene : Scene) (st : State) : Nat → State
  | 0 => st
  | fuel + 1 =>
    match st.urgent with
    | event :: urgent => play scene (happen scene { st with urgent := urgent } event) fuel
    | [] =>
      -- Time stands still as long as some job can go on by itself.
      match (List.range st.machine.jobs.length).find? (canProceed st.machine) with
      | some job => play scene (st.act scene job (.proceed job)) fuel
      | none =>
        match earliest? st.agenda with
        | some ((due, event), agenda) =>
          play scene (happen scene { st with clockMs := max st.clockMs due, agenda := agenda } event) fuel
        | none => st

end State

/-- The questions are asked, each after its delay, and all is played to the end: what was told of each, and
what was noted. `bits` is for the id of the first session. -/
def together (scene : Scene) (st : State) (bits : Nat) (asks : List (Nat × Ask)) :
    List Told × List Note × State :=
  let indexed := asks.zipIdx
  let agenda := indexed.map fun ((after, ask), i) ↦ (st.clockMs + after, Event.arrive i ask (bits + i))
  let st := { st with agenda := agenda, notes := [], told := [], jobs := [] }
  let st := st.play scene (200 * (asks.length + st.machine.registry.count + 1))
  let told := indexed.map fun (_, i) ↦
    match st.told.find? (·.1 = i), st.jobs.find? (·.1 = i) with
    | some (_, told), _ => told
    | none, some (_, job) =>
      match st.machine.jobs[job]? with
      | some ⟨_, .answered answer⟩ => .answer answer
      | _ => .nothing
    | none, none => .nothing
  (told, st.notes.reverse, st)

def ask (scene : Scene) (st : State) (bits : Nat) (a : Ask) : Told × List Note × State :=
  let (told, notes, st) := together scene st bits [(0, a)]
  (told.headD .nothing, notes, st)

/-- A fix is asked for outside any session, and the providers' answers come from the script. The numbers count
the answers used so far. -/
def askForFix (p : Pipeline) (primary fallback : List ReplyCue) (used : Nat × Nat) :
    Fix × List Role × (Nat × Nat) :=
  let answers : Role → Answered
    | .primary => ((pickReply primary used.1).within p.timeoutMs).2.2
    | .fallback => ((pickReply fallback used.2).within p.timeoutMs).2.2
  let (fix, roles) := p.fix answers
  (fix, roles, (used.1 + 1, if Role.fallback ∈ roles then used.2 + 1 else used.2))

end CodeRepair.Rehearsal

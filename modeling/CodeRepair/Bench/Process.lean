import CodeRepair.Bench.Script
import CodeRepair.Files.Tree

/-!
A computer held in memory, and a process on it. Nothing runs side by side: what a pipeline writes is kept until
the next part reads it. Time passes only when a process sleeps. Both stand in for an operating system, which is no part
of the program.
-/
namespace CodeRepair.Bench

open Files (Tree Node Place Fault)

structure Computer where
  tree : Tree
  clockMs : Nat
  /-- When whatever still runs is stopped. -/
  deadline : Option Nat
  environment : List (String × String)
  deriving Repr, Inhabited

inductive Target
  | stream (index : Nat)
  | file (place : Place)
  | sink
  deriving DecidableEq, Repr, Inhabited

structure Switches where
  stopOnFailure : Bool
  stopOnUnset : Bool
  trace : Bool
  deriving DecidableEq, Repr, Inhabited

/-- A process. Of each stream the reads are kept, the last first. -/
structure Process where
  computer : Computer
  streams : List (List (List UInt8))
  descriptors : List (Nat × Target)
  dir : Place
  name : String
  args : List String
  values : List (String × String)
  exported : List String
  functions : List (String × Command)
  traps : List (String × String)
  switches : Switches
  /-- The values that local variables have outside. -/
  outside : List (String × Option String)
  pid : Nat
  depth : Nat
  calls : Nat
  loops : Nat
  fixed : List String
  status : Nat
  line : Nat
  broken : Bool
  overdue : Bool
  /-- It went on for longer than anybody waits, and so was never done. -/
  endless : Bool
  killed : Option Nat
  deriving Inhabited

def pathOf (place : Place) : String := "/" ++ "/".intercalate place

def bytesOf (s : String) : List UInt8 := Text.Utf8.encode s.toList

def textOf (bytes : List UInt8) : String := String.ofList (Text.Utf8.decode bytes)

namespace Process

def target? (p : Process) (descriptor : Nat) : Option Target :=
  (p.descriptors.find? (·.1 = descriptor)).map (·.2)

def put (p : Process) (bytes : List UInt8) : Target → Process
  | .stream index => { p with streams := p.streams.modify index (bytes :: ·) }
  | .sink => p
  | .file place =>
    match p.computer.tree.node? place with
    | some (.file old executable) =>
      { p with computer.tree := p.computer.tree.put place (.file (old ++ bytes) executable) }
    -- A file that was removed meanwhile takes nothing more.
    | _ => p

def write? (p : Process) (descriptor : Nat) (bytes : List UInt8) : Option Process :=
  (p.target? descriptor).map fun t ↦ if bytes.isEmpty then p else p.put bytes t

def write (p : Process) (descriptor : Nat) (bytes : List UInt8) : Process := (p.write? descriptor bytes).getD p

/-- The output of a tool, which fails when nobody can take it. -/
def out (p : Process) (bytes : List UInt8) : Process :=
  match p.write? 1 bytes with
  | some p => p
  | none => { p with status := 1 }

def say (p : Process) (s : String) : Process := p.out (bytesOf (s ++ "\n"))

def complain (p : Process) (s : String) : Process := p.write 2 (bytesOf (s ++ "\n"))

def fail (p : Process) (status : Nat) (s : String) : Process := { p.complain s with status }

def failAt (p : Process) (status : Nat) (s : String) : Process :=
  p.fail status (p.name ++ ": " ++ toString p.line ++ ": " ++ s)

def input (p : Process) : List UInt8 :=
  match p.target? 0 with
  | some (.stream index) => ((p.streams[index]?).getD []).reverse.flatten
  | some (.file place) =>
    match p.computer.tree.node? place with
    | some (.file bytes _) => bytes
    | _ => []
  | _ => []

def leave (p : Process) (bytes : List UInt8) : Process :=
  match p.target? 0 with
  | some (.stream index) => { p with streams := p.streams.set index (if bytes.isEmpty then [] else [bytes]) }
  | _ => p

def newStream (p : Process) (bytes : List UInt8) : Nat × Process :=
  (p.streams.length, { p with streams := p.streams ++ [if bytes.isEmpty then [] else [bytes]] })

def streamText (p : Process) (index : Nat) : List UInt8 := ((p.streams[index]?).getD []).reverse.flatten

def redirect (p : Process) (descriptor : Nat) (target : Option Target) : Process :=
  let others := p.descriptors.filter (·.1 ≠ descriptor)
  { p with descriptors := match target with
      | some t => (descriptor, t) :: others
      | none => others }

def lookup? (p : Process) (name : String) : Option String := (p.values.find? (·.1 = name)).map (·.2)

/-- A variable takes a value, unless it has to keep its own. -/
def assign (p : Process) (name value : String) : Process :=
  if name ∈ p.fixed then { p.failAt 2 (name ++ ": is read only") with broken := true }
  else { p with values := (name, value) :: p.values.filter (·.1 ≠ name) }

def sleep (p : Process) (ms : Nat) : Process :=
  let after := p.computer.clockMs + ms
  match p.computer.deadline with
  | some deadline =>
    -- The clock stops at the deadline: nothing happens after it.
    if deadline < after then { p with computer.clockMs := deadline, overdue := true }
    else { p with computer.clockMs := after }
  | none => { p with computer.clockMs := after }

def stopped (p : Process) : Bool := p.overdue || p.endless || p.killed.isSome

def locate (p : Process) (path : String) : Except Fault Place := p.computer.tree.locate p.dir path

def read (p : Process) (path : String) : Except Fault (List UInt8 × Bool) := do
  match ← p.computer.tree.find p.dir path with
  | (_, .zeros) => return (Files.someZeros, true)
  | _ => return (← p.computer.tree.read p.dir path, false)

def alter (p : Process) (change : Tree → Except Fault Tree) : Except Fault Process := do
  return { p with computer.tree := ← change p.computer.tree }

end Process

end CodeRepair.Bench

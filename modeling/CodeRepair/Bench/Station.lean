import CodeRepair.Bench.Shell
import CodeRepair.Execution.Run

/-!
A computer in memory as the host of runs. Everything on it takes place in order and no time passes but what
programs sleep, so the same run always ends in the same way. It stands in for a real host; the theorems on runs are
about every host.
-/
namespace CodeRepair.Bench

open Files (Place Fault)

def patience : Nat := 50000

def firstPid : Nat := 4000

def earlier : Option Nat → Option Nat → Option Nat
  | some a, some b => some (min a b)
  | a, none => a
  | none, b => b

namespace Computer

def process (c : Computer) (dir : Place) (name : String) : Process :=
  { computer := c, streams := [[], [], []]
    descriptors := [(0, .stream 2), (1, .stream 0), (2, .stream 1)]
    dir, name, args := [], values := ("PWD", pathOf dir) :: c.environment
    exported := "PWD" :: c.environment.map (·.1), functions := [], traps := [], switches := .none, outside := []
    pid := firstPid, depth := 0, calls := 0, loops := 0, fixed := [], status := 0, line := 1, broken := false, overdue := false, endless := false
    killed := none }

/-- A command runs in a directory. It is stopped when its time is up, or when no time is left at all. -/
def command (c : Computer) (here : Place) (argv : List String) (dir : String) (seconds : Option Nat) :
    Ending × Computer :=
  let limit := seconds.map fun s ↦ c.clockMs + s * 1000
  let deadline := earlier limit c.deadline
  match c.tree.find here dir with
  | .error fault => (.notStarted fault, c)
  | .ok (place, _) =>
    match launch patience argv ({ c with deadline }.process place (argv.headD "")) with
    | .error fault => (.notStarted fault, c)
    | .ok p =>
      let after := { p.computer with deadline := c.deadline }
      let late : Bool := p.overdue || p.endless || deadline.any (· ≤ p.computer.clockMs)
      if late then (.timedOut, { after with clockMs := deadline.getD after.clockMs })
      else
        let read (index : Nat) : List (List UInt8) := ((p.streams[index]?).getD []).reverse
        (.exited (if p.killed.isSome then none else some p.status) (read 0) (read 1), after)

end Computer

/-- A computer with what a program on it stands on. -/
structure Station where
  computer : Computer
  dir : Place
  tempDir : String
  drawn : Nat

namespace Station

variable {m : Type → Type} [Monad m]

def alter (change : Files.Tree → Place → Except Fault Files.Tree) : StateT Station m (Except Fault Unit) := do
  let s ← get
  match change s.computer.tree s.dir with
  | .ok tree =>
    set { s with computer.tree := tree }
    return .ok ()
  | .error fault => return .error fault

def ofFiles (dir : String) (files : List (String × String)) (environment : List (String × String)) (tempDir : String) :
    Station :=
  let place := Files.Path.names dir
  let add (t : Files.Tree) (file : String × String) : Files.Tree :=
    let t :=
      match Files.Path.directory? file.1 with
      | some parent => (t.mkdirAll place parent).toOption.getD t
      | none => t
    (t.write place file.1 (bytesOf file.2)).toOption.getD t
  ⟨⟨files.foldl add (Files.Tree.empty.put place .directory), 0, none, environment⟩, place, tempDir, 0⟩

/-- The files below the directory where the program stands, by their paths from there, in order. -/
def files (s : Station) : List (String × List UInt8) :=
  let named := (s.computer.tree.filesBelow s.dir).map fun (place, bytes) ↦ (Text.joinWith "/" place, bytes)
  named.mergeSort fun a b ↦ decide (a.1 ≤ b.1)

def tokenAfter (drawn : Nat) : String :=
  String.ofList (Number.paddedHex 32 (0xd1342543de82ef95af251af3b0f025b5 * (drawn + 1)))

def makeDirs (path : String) : StateT Station m (Except Fault Unit) := alter fun t dir ↦ t.mkdirAll dir path

def writeText (path content : String) : StateT Station m (Except Fault Unit) :=
  alter fun t dir ↦ t.write dir path (bytesOf content)

def readText (path : String) : StateT Station m (Except Fault String) := do
  let s ← get
  return do
    let bytes ← s.computer.tree.read s.dir path
    let text := Text.Utf8.decode bytes
    if Text.Utf8.encode text = bytes then .ok (String.ofList text) else .error .notText

/-- The computer as the host of runs. -/
def host : Host (StateT Station m) where
  tempDir := return (← get).tempDir
  token := modifyGet fun s ↦ (tokenAfter s.drawn, { s with drawn := s.drawn + 1 })
  clock := return (← get).computer.clockMs
  createDirs := makeDirs
  write := writeText
  remove path := do discard (alter fun t dir ↦ t.remove dir path)
  command argv dir seconds := modifyGet fun s ↦
    let (ending, computer) := s.computer.command s.dir argv dir seconds
    (ending, { s with computer })

end Station

end CodeRepair.Bench

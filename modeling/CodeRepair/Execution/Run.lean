import CodeRepair.About
import CodeRepair.Config.Basic
import CodeRepair.Execution.Capture
import CodeRepair.Execution.Result
import CodeRepair.Files.Fault
import CodeRepair.Files.Path

/-!
One run of a program: its source is written to a file, compiled if its language asks for it, started, and cleared
away whatever happened. Nothing that goes wrong is an error; all of it is told in the result.
-/
namespace CodeRepair

/-- How a command ended that had a limit of time. -/
inductive Ending
  | notStarted (fault : Files.Fault)
  /-- It was started, and how it ended could not be told. -/
  | lost (fault : Files.Fault)
  /-- With a status, none when a signal ended it, and what came out on its two streams in reads. -/
  | exited (status : Option Int) (stdout stderr : List (List UInt8))
  | timedOut
  deriving DecidableEq, Repr, Inhabited

/-- What a run needs of the system. -/
structure Host (m : Type → Type) where
  tempDir : m String
  /-- Text that occurs in no other name. -/
  token : m String
  clock : m Nat
  createDirs : String → m (Except Files.Fault Unit)
  write : (path content : String) → m (Except Files.Fault Unit)
  remove : String → m Unit
  /-- Runs a command in a directory, for at most some seconds or for as long as it takes. -/
  command : (argv : List String) → (dir : String) → (seconds : Option Nat) → m Ending

/-- The names of the files of one run. -/
structure Workplace where
  dir : String
  source : String
  binary : String
  deriving DecidableEq, Repr

def Workplace.ofToken (dir token : String) (language : Language) : Workplace :=
  let stem := programName ++ "-" ++ token
  { dir, source := Files.Path.join dir (stem ++ "." ++ language.fileExtension), binary := Files.Path.join dir stem }

def commandFailure (task : String) (argv : List String) (fault : Files.Fault) : String :=
  match argv with
  | [] => "empty command"
  | program :: _ => "failed to " ++ task ++ " '" ++ program ++ "': " ++ fault.message

namespace SandboxConfig

def programResult (c : SandboxConfig) (argv : List String) : Ending → ExecutionResult
  | .notStarted fault => .internal .run (commandFailure "start" argv fault)
  | .lost fault => .internal .run (commandFailure "wait for" argv fault)
  | .timedOut => .timedOut .run
  | .exited status stdout stderr =>
    let out := capture c.limits.maxOutputBytes stdout
    let err := capture c.limits.maxOutputBytes stderr
    if status = some 0 then .success out err else .runtimeFailure out err status

/-- What comes of a compiler when its command ends so, if this is the end of the run. -/
def compilerResult? (c : SandboxConfig) (argv : List String) : Ending → Option ExecutionResult
  | .notStarted fault => some (.internal .compile (commandFailure "start" argv fault))
  | .lost fault => some (.internal .compile (commandFailure "wait for" argv fault))
  | .timedOut => some (.timedOut .compile)
  -- A compiler writes its messages to the second stream; the first one is not kept.
  | .exited status _ stderr =>
    if status = some 0 then none else some (.compileFailure (capture c.limits.maxOutputBytes stderr) status)

end SandboxConfig

namespace Host

variable {m : Type → Type} [Monad m]

def execute (host : Host m) (c : SandboxConfig) (w : Workplace) (argv : List String) : m ExecutionResult := do
  return c.programResult argv (← host.command argv w.dir (some c.limits.timeoutSecs))

def compileAndExecute (host : Host m) (c : SandboxConfig) (language : Language) (w : Workplace) :
    m ExecutionResult := do
  match c.compileCommand language w.source w.binary with
  | none => host.execute c w (c.runCommand language w.source)
  | some argv =>
    match c.compilerResult? argv (← host.command argv w.dir (some c.limits.compileTimeoutSecs)) with
    | some result => return result
    | none => host.execute c w (c.runCommand language w.binary)

def clean (host : Host m) (language : Language) (w : Workplace) : m Unit := do
  host.remove w.source
  if language.isCompiled then host.remove w.binary

def writeAndExecute (host : Host m) (c : SandboxConfig) (language : Language) (code : String) (w : Workplace) :
    m ExecutionResult := do
  match ← host.write w.source code with
  | .error fault =>
    -- A file that could not be written whole may be there all the same.
    host.remove w.source
    return .internal .setup ("failed to write source file: " ++ fault.message)
  | .ok () =>
    let result ← host.compileAndExecute c language w
    host.clean language w
    return result

def workDir (host : Host m) (c : SandboxConfig) : m String :=
  match c.workDir with
  | some dir => return dir
  | none => host.tempDir

def makeAndExecute (host : Host m) (c : SandboxConfig) (language : Language) (code : String) (dir : String) :
    m ExecutionResult := do
  match ← host.createDirs dir with
  | .error fault => return .internal .setup ("failed to create work dir " ++ dir ++ ": " ++ fault.message)
  | .ok () => host.writeAndExecute c language code (.ofToken dir (← host.token) language)

def run (host : Host m) (c : SandboxConfig) (language : Language) (code : String) : m ExecutionResult := do
  let started ← host.clock
  let result ← host.makeAndExecute c language code (← host.workDir c)
  return { result with durationMs := (← host.clock) - started }

/-- Whether the program that a language needs can tell its version. -/
def isAvailable (host : Host m) (c : SandboxConfig) (language : Language) : m Bool := do
  -- No limit of time here: a command that only tells its version is trusted to end.
  match ← host.command [c.toolchainBinary language, "--version"] "." none with
  | .exited status _ _ => return status = some 0
  | _ => return false

end Host

end CodeRepair

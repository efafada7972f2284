import CodeRepair.Schema.HasShape

/-!
How the run of a program ended.
-/
namespace CodeRepair

inductive ExecutionStage
  /-- Before any process was started. -/
  | setup
  | compile
  | run
  deriving DecidableEq, Repr, Inhabited

instance : Schema.HasShape ExecutionStage where
  shape := .choice ["setup", "compile", "run"]
  toDatum
    | .setup => .choice 0
    | .compile => .choice 1
    | .run => .choice 2
  ofDatum?
    | .choice 0 => some .setup
    | .choice 1 => some .compile
    | .choice 2 => some .run
    | _ => none

/-- Why a run failed, when not by the exit of the program itself. -/
inductive FailureReason
  | compilationFailed
  | timedOut
  | internal (message : String)
  deriving DecidableEq, Repr, Inhabited

namespace FailureReason

def message : FailureReason → String
  | compilationFailed => "compilation failed"
  | timedOut => "timed out"
  | internal message => "internal error: " ++ message

instance : Schema.HasShape FailureReason where
  shape := .tagged "FailureReason" [("compilation_failed", false), ("timed_out", false), ("internal", true)]
  toDatum
    | compilationFailed => .tagged 0 none
    | timedOut => .tagged 1 none
    | internal message => .tagged 2 (some message)
  ofDatum?
    | .tagged 0 none => some compilationFailed
    | .tagged 1 none => some timedOut
    | .tagged 2 (some message) => some (internal message)
    | _ => none

end FailureReason

structure ExecutionResult where
  succeeded : Bool
  stdout : String
  stderr : String
  failureReason : Option FailureReason
  stage : ExecutionStage
  exitCode : Option Int
  durationMs : Nat
  deriving DecidableEq, Repr, Inhabited

namespace ExecutionResult

def success (stdout stderr : String) : ExecutionResult := ⟨true, stdout, stderr, none, .run, some 0, 0⟩

/-- The program exited with another status, or by a signal and so with none. -/
def runtimeFailure (stdout stderr : String) (exitCode : Option Int) : ExecutionResult :=
  ⟨false, stdout, stderr, none, .run, exitCode, 0⟩

def compileFailure (stderr : String) (exitCode : Option Int) : ExecutionResult :=
  ⟨false, "", stderr, some .compilationFailed, .compile, exitCode, 0⟩

/-- The time limit of a stage was reached, and the output dropped. -/
def timedOut (stage : ExecutionStage) : ExecutionResult := ⟨false, "", "", some .timedOut, stage, none, 0⟩

def internal (stage : ExecutionStage) (message : String) : ExecutionResult :=
  ⟨false, "", "", some (.internal message), stage, none, 0⟩

def isCompileFailure (r : ExecutionResult) : Bool := r.failureReason = some .compilationFailed

def isTimeout (r : ExecutionResult) : Bool := r.failureReason = some .timedOut

/-- What is shown to whoever is to mend the program: its error output, else the reason of the failure. -/
def errorSignal (r : ExecutionResult) : String :=
  if !Text.blank r.stderr then r.stderr
  else
    match r.failureReason with
    | some reason => reason.message
    | none => "Unknown error"

open Schema in
instance : HasShape ExecutionResult where
  shape := .record "ExecutionResult" <|
    .cons "succeeded" .required .bool <|
    .cons "stdout" .required .text <|
    .cons "stderr" .required .text <|
    .cons "failure_reason" .omitted (.optional (shape FailureReason)) <|
    .cons "stage" .required (shape ExecutionStage) <|
    .cons "exit_code" .omitted (.optional (.integer .i32)) <|
    .cons "duration_ms" (.default (.int 0)) (.integer .u64) .nil
  toDatum r := .record [toDatum r.succeeded, toDatum r.stdout, toDatum r.stderr, toDatum r.failureReason,
    toDatum r.stage, ofOption .int r.exitCode, ofNat r.durationMs]
  ofDatum?
    | .record [succeeded, stdout, stderr, reason, stage, exitCode, duration] => do
      return ⟨← ofDatum? succeeded, ← ofDatum? stdout, ← ofDatum? stderr, ← ofDatum? reason, ← ofDatum? stage,
        ← optionOf? intOf? exitCode, ← natOf? duration⟩
    | _ => none

end ExecutionResult

end CodeRepair

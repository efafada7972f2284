import CodeRepair.Diagnostic.Basic
import CodeRepair.Execution.Result
import CodeRepair.Fix.Basic
import CodeRepair.Language

/-!
The record of a debugging session: its attempts, its current code and its state.
-/
namespace CodeRepair

inductive SessionState
  | running
  | succeeded
  /-- The budget was used up without success. -/
  | exhausted
  /-- There was no usable fix, and the policy is to stop then. -/
  | aborted
  /-- Given up between attempts. -/
  | cancelled
  deriving DecidableEq, Repr, Inhabited

namespace SessionState

def name : SessionState → String
  | running => "running"
  | succeeded => "succeeded"
  | exhausted => "exhausted"
  | aborted => "aborted"
  | cancelled => "cancelled"

def all : List SessionState := [running, succeeded, exhausted, aborted, cancelled]

def isTerminal (s : SessionState) : Bool := s ≠ running

instance : Schema.HasShape SessionState where
  shape := .choice (all.map name)
  toDatum s := .choice (all.idxOf s)
  ofDatum?
    | .choice i => all[i]?
    | _ => none

end SessionState

/-- What follows a failed attempt without a usable fix. -/
inductive NoFixPolicy
  | retryUnchanged
  | abort
  deriving DecidableEq, Repr, Inhabited

namespace NoFixPolicy

def name : NoFixPolicy → String
  | retryUnchanged => "retry_unchanged"
  | abort => "abort"

instance : Schema.HasShape NoFixPolicy where
  shape := .choice ["retry_unchanged", "abort"]
  toDatum
    | retryUnchanged => .choice 0
    | abort => .choice 1
  ofDatum?
    | .choice 0 => some retryUnchanged
    | .choice 1 => some abort
    | _ => none

def parse (text : String) : Except String NoFixPolicy :=
  let name := String.ofList (Text.replaceChar '-' '_' (Text.lower (Text.trim text.toList)))
  if name ∈ ["retry_unchanged", "retry"] then .ok retryUnchanged
  else if name = "abort" then .ok abort
  else .error ("unknown no-fix policy '" ++ name ++ "' (expected retry_unchanged or abort)")

end NoFixPolicy

/-- One run of a session's code. -/
structure Attempt where
  /-- Counted from 1. -/
  index : Nat
  codeUsed : String
  result : ExecutionResult
  /-- What came of asking for a fix; absent when none was asked for. -/
  fix : Option Fix
  diagnostics : List Diagnostic
  timestamp : Time.Stamp
  succeeded : Bool
  deriving Repr, Inhabited

namespace Attempt

/-- Whether the next attempt runs other code. -/
def fixApplied (a : Attempt) : Bool :=
  match a.fix with
  | some fix => fix.isUsable
  | none => false

open Schema in
instance : HasShape Attempt where
  shape := .record "Attempt" <|
    .cons "index" .required (.integer .u32) <|
    .cons "code_used" .required .text <|
    .cons "execution_result" .required (shape ExecutionResult) <|
    .cons "fix" .required (.optional (shape Fix)) <|
    .cons "diagnostics" (.default (.list [])) (.list (shape Diagnostic)) <|
    .cons "timestamp" .required .time <|
    .cons "succeeded" .required .bool .nil
  toDatum a := .record [ofNat a.index, toDatum a.codeUsed, toDatum a.result, toDatum a.fix, toDatum a.diagnostics,
    toDatum a.timestamp, toDatum a.succeeded]
  ofDatum?
    | .record [index, code, result, fix, diagnostics, timestamp, succeeded] => do
      return ⟨← natOf? index, ← ofDatum? code, ← ofDatum? result, ← ofDatum? fix, ← ofDatum? diagnostics,
        ← ofDatum? timestamp, ← ofDatum? succeeded⟩
    | _ => none

end Attempt

/-- The state of a session as its callers see it. -/
structure Summary where
  sessionId : String
  language : Language
  initialCode : String
  finalCode : String
  maxAttempts : Nat
  totalAttempts : Nat
  state : SessionState
  isComplete : Bool
  succeeded : Bool
  startedAt : Time.Stamp
  elapsedSeconds : Float
  attempts : List Attempt
  deriving Repr, Inhabited

open Schema in
instance : HasShape Summary where
  shape := .record "SessionSummary" <|
    .cons "session_id" .required .text <|
    .cons "language" .required (shape Language) <|
    .cons "initial_code" .required .text <|
    .cons "final_code" .required .text <|
    .cons "max_attempts" .required (.integer .u32) <|
    .cons "total_attempts" .required (.integer .u32) <|
    .cons "state" .required (shape SessionState) <|
    .cons "is_complete" .required .bool <|
    .cons "succeeded" .required .bool <|
    .cons "started_at" .required .time <|
    .cons "elapsed_seconds" .required .real <|
    .cons "attempts" .required (.list (shape Attempt)) .nil
  toDatum s := .record [toDatum s.sessionId, toDatum s.language, toDatum s.initialCode, toDatum s.finalCode,
    ofNat s.maxAttempts, ofNat s.totalAttempts, toDatum s.state, toDatum s.isComplete, toDatum s.succeeded,
    toDatum s.startedAt, toDatum s.elapsedSeconds, toDatum s.attempts]
  ofDatum?
    | .record [id, language, initial, final, max, total, state, complete, succeeded, started, elapsed, attempts] => do
      return ⟨← ofDatum? id, ← ofDatum? language, ← ofDatum? initial, ← ofDatum? final, ← natOf? max, ← natOf? total,
        ← ofDatum? state, ← ofDatum? complete, ← ofDatum? succeeded, ← ofDatum? started, ← ofDatum? elapsed,
        ← ofDatum? attempts⟩
    | _ => none

/-- A debugging session. -/
structure Session where
  id : String
  language : Language
  initialCode : String
  currentCode : String
  maxAttempts : Nat
  attempts : List Attempt
  state : SessionState
  startedAt : Time.Stamp
  finishedAt : Option Time.Stamp
  deriving Repr, Inhabited

namespace Session

def start (id : String) (language : Language) (code : String) (maxAttempts : Nat) (now : Time.Stamp) : Session where
  id := id
  language := language
  initialCode := code
  currentCode := code
  maxAttempts := maxAttempts
  attempts := []
  state := .running
  startedAt := now
  finishedAt := none

def isComplete (s : Session) : Bool := s.state.isTerminal

def succeeded (s : Session) : Bool := s.state = .succeeded

def nextIndex (s : Session) : Nat := s.attempts.length + 1

/-- Moves to a state; a session that is complete stays as it is. -/
def finish (s : Session) (state : SessionState) (now : Time.Stamp) : Session :=
  if s.isComplete then s else { s with state := state, finishedAt := some now }

/-- Adds an attempt, then goes on to other code and to another state where these are given. -/
def record (s : Session) (attempt : Attempt) (nextCode : Option String) (outcome : Option SessionState)
    (now : Time.Stamp) : Session :=
  -- This much happens to a complete session too; only its end stays as it was.
  let s := { s with attempts := s.attempts ++ [attempt], currentCode := nextCode.getD s.currentCode }
  match outcome with
  | some state => s.finish state now
  | none => s

/-- Seconds from the start to the end, or to now, in whole milliseconds. -/
def elapsedSeconds (s : Session) (now : Time.Stamp) : Float :=
  (UInt64.ofNat (s.startedAt.millisUntil (s.finishedAt.getD now))).toFloat / 1000

def summary (s : Session) (now : Time.Stamp) : Summary where
  sessionId := s.id
  language := s.language
  initialCode := s.initialCode
  finalCode := s.currentCode
  maxAttempts := s.maxAttempts
  totalAttempts := s.attempts.length
  state := s.state
  isComplete := s.isComplete
  succeeded := s.succeeded
  startedAt := s.startedAt
  elapsedSeconds := s.elapsedSeconds now
  attempts := s.attempts

end Session

end CodeRepair

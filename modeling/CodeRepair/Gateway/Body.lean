import CodeRepair.Report

/-!
The bodies of requests to the gateway and of its answers.
-/
namespace CodeRepair.Gateway

open Schema

structure CodeRequest where
  language : String
  code : String
  deriving DecidableEq, Repr, Inhabited

instance : HasShape CodeRequest where
  shape := .record "CodeRequest" <| .cons "language" .required .text <| .cons "code" .required .text .nil
  toDatum r := .record [toDatum r.language, toDatum r.code]
  ofDatum?
    | .record [language, code] => do return ⟨← ofDatum? language, ← ofDatum? code⟩
    | _ => none

structure RetryRequest where
  language : String
  code : String
  maxAttempts : Option Nat
  deriving DecidableEq, Repr, Inhabited

instance : HasShape RetryRequest where
  shape := .record "RetryRequest" <|
    .cons "language" .required .text <|
    .cons "code" .required .text <|
    .cons "max_attempts" (.default .none) (.optional (.integer .u32)) .nil
  toDatum r := .record [toDatum r.language, toDatum r.code, ofOption ofNat r.maxAttempts]
  ofDatum?
    | .record [language, code, max] => do return ⟨← ofDatum? language, ← ofDatum? code, ← optionOf? natOf? max⟩
    | _ => none

structure ExecuteResponse where
  message : String
  result : ExecutionResult
  deriving DecidableEq, Repr, Inhabited

instance : HasShape ExecuteResponse where
  shape := .record "ExecuteResponse" <|
    .cons "message" .required .text <| .cons "result" .required (shape ExecutionResult) .nil
  toDatum r := .record [toDatum r.message, toDatum r.result]
  ofDatum?
    | .record [message, result] => do return ⟨← ofDatum? message, ← ofDatum? result⟩
    | _ => none

structure DebugResponse where
  message : String
  result : ExecutionResult
  diagnostics : List Diagnostic
  aiFix : Option Fix
  deriving Repr, Inhabited

instance : HasShape DebugResponse where
  shape := .record "DebugResponse" <|
    .cons "message" .required .text <|
    .cons "result" .required (shape ExecutionResult) <|
    .cons "diagnostics" (.default (.list [])) (.list (shape Diagnostic)) <|
    .cons "ai_fix" .required (.optional (shape Fix)) .nil
  toDatum r := .record [toDatum r.message, toDatum r.result, toDatum r.diagnostics, toDatum r.aiFix]
  ofDatum?
    | .record [message, result, diagnostics, fix] => do
      return ⟨← ofDatum? message, ← ofDatum? result, ← ofDatum? diagnostics, ← ofDatum? fix⟩
    | _ => none

def completedMessage : String := "Execution completed"

def DebugResponse.ofReport (r : Report) : DebugResponse := ⟨completedMessage, r.result, r.diagnostics, r.fix⟩

structure HealthResponse where
  status : String
  version : String
  languages : List String
  activeSessions : Nat
  sessionCapacity : Nat
  onNoFix : NoFixPolicy
  primaryProvider : String
  fallbackProvider : Option String
  deriving DecidableEq, Repr, Inhabited

instance : HasShape HealthResponse where
  shape := .record "HealthResponse" <|
    .cons "status" .required .text <|
    .cons "version" .required .text <|
    .cons "languages" .required (.list .text) <|
    .cons "active_sessions" .required (.integer .size) <|
    .cons "session_capacity" .required (.integer .size) <|
    .cons "on_no_fix" .required (shape NoFixPolicy) <|
    .cons "primary_provider" .required .text <|
    .cons "fallback_provider" .leftOut (.optional .text) .nil
  toDatum r := .record [toDatum r.status, toDatum r.version, toDatum r.languages, ofNat r.activeSessions,
    ofNat r.sessionCapacity, toDatum r.onNoFix, toDatum r.primaryProvider, toDatum r.fallbackProvider]
  ofDatum?
    | .record [status, version, languages, active, capacity, policy, primary, fallback] => do
      return ⟨← ofDatum? status, ← ofDatum? version, ← ofDatum? languages, ← natOf? active, ← natOf? capacity,
        ← ofDatum? policy, ← ofDatum? primary, ← ofDatum? fallback⟩
    | _ => none

structure ErrorBody where
  code : String
  detail : String
  deriving DecidableEq, Repr, Inhabited

instance : HasShape ErrorBody where
  shape := .record "ErrorBody" <| .cons "code" .required .text <| .cons "detail" .required .text .nil
  toDatum b := .record [toDatum b.code, toDatum b.detail]
  ofDatum?
    | .record [code, detail] => do return ⟨← ofDatum? code, ← ofDatum? detail⟩
    | _ => none

/-- A refusal. -/
structure ApiError where
  status : Nat
  body : ErrorBody
  deriving DecidableEq, Repr, Inhabited

namespace ApiError

def internal (detail : String) : ApiError := ⟨500, "internal", detail⟩

def requestCode : RequestError → String
  | .unsupportedLanguage _ => "unsupported_language"
  | .emptyCode => "empty_code"
  | .codeTooLong .. => "code_too_long"
  | .invalidMaxAttempts .. => "invalid_max_attempts"
  | .unsafeCode _ => "unsafe_code"

def ofRequest (e : RequestError) : ApiError := ⟨400, requestCode e, e.message⟩

def ofSession (e : SessionError) : ApiError :=
  match e with
  | .request e => ofRequest e
  | .notFound _ => ⟨404, "session_not_found", e.message⟩
  | .alreadyComplete _ => ⟨409, "session_complete", e.message⟩
  | .cancelled _ => ⟨409, "session_cancelled", e.message⟩
  | .capacityReached _ => ⟨503, "capacity_reached", e.message⟩
  | .invalidId _ => ⟨400, "invalid_session_id", e.message⟩

end ApiError

end CodeRepair.Gateway

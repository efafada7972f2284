import CodeRepair.Session.Record

/-!
The outcome of one run together with what is proposed to mend it.
-/
namespace CodeRepair

open Schema

/-- One run, its diagnostics and, when it failed, what came of asking for a fix. -/
structure Report where
  result : ExecutionResult
  diagnostics : List Diagnostic
  fix : Option Fix
  deriving Repr, Inhabited

instance : HasShape Report where
  shape := .record "DebugReport" <|
    .cons "result" .required (shape ExecutionResult) <|
    .cons "diagnostics" (.default (.list [])) (.list (shape Diagnostic)) <|
    .cons "fix" .required (.optional (shape Fix)) .nil
  toDatum r := .record [toDatum r.result, toDatum r.diagnostics, toDatum r.fix]
  ofDatum?
    | .record [result, diagnostics, fix] => do return ⟨← ofDatum? result, ← ofDatum? diagnostics, ← ofDatum? fix⟩
    | _ => none

end CodeRepair

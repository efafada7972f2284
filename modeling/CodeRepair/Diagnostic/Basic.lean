import CodeRepair.Schema.HasShape

/-!
Error messages with their place in the source text.
-/
namespace CodeRepair

inductive Severity
  | error
  | warning
  deriving DecidableEq, Repr, Inhabited

instance : Schema.HasShape Severity where
  shape := .choice ["error", "warning"]
  toDatum
    | .error => .choice 0
    | .warning => .choice 1
  ofDatum?
    | .choice 0 => some .error
    | .choice 1 => some .warning
    | _ => none

/-- A message about a line. -/
structure Diagnostic where
  line : Nat
  column : Option Nat
  severity : Severity
  message : String
  deriving DecidableEq, Repr, Inhabited

open Schema in
instance : HasShape Diagnostic where
  shape := .record "Diagnostic" <|
    .cons "line" .required (.integer .u32) <|
    .cons "column" .required (.optional (.integer .u32)) <|
    .cons "severity" .required (shape Severity) <|
    .cons "message" .required .text .nil
  toDatum d := .record [ofNat d.line, ofOption ofNat d.column, toDatum d.severity, toDatum d.message]
  ofDatum?
    | .record [line, column, severity, message] => do
      return ⟨← natOf? line, ← optionOf? natOf? column, ← ofDatum? severity, ← ofDatum? message⟩
    | _ => none

/-- The largest line or column that is reported. -/
def Diagnostic.maxPlace : Nat := Nat.pow 2 32 - 1

/-- A run of digits as a line or column: ASCII digits with a value in range. -/
def Diagnostic.place? (digits : List Char) : Option Nat :=
  (Number.decimal? digits).filter (· ≤ maxPlace)

end CodeRepair

import CodeRepair.Schema.Text
import CodeRepair.Schema.Value
import CodeRepair.Json.Writer

/-!
Types whose values are read and written along a shape.
-/
namespace CodeRepair.Schema

/-- A type with a shape: `ofDatum?` undoes `toDatum`. -/
class HasShape (α : Type) where
  shape : Shape
  toDatum : α → Datum
  ofDatum? : Datum → Option α

export HasShape (shape toDatum ofDatum?)

instance : HasShape Bool where
  shape := .bool
  toDatum := .bool
  ofDatum?
    | .bool b => some b
    | _ => none

instance : HasShape String where
  shape := .text
  toDatum := .text
  ofDatum?
    | .text s => some s
    | _ => none

instance : HasShape Float where
  shape := .real
  toDatum := .real
  ofDatum?
    | .real x => some x
    | _ => none

instance : HasShape Float32 where
  shape := .single
  toDatum := .single
  ofDatum?
    | .single x => some x
    | _ => none

instance : HasShape Time.Stamp where
  shape := .time
  toDatum := .time
  ofDatum?
    | .time t => some t
    | _ => none

instance {α : Type} [HasShape α] : HasShape (Option α) where
  shape := .optional (shape α)
  toDatum
    | none => .none
    | some a => .some (toDatum a)
  ofDatum?
    | .none => some none
    | .some d => (ofDatum? d).map some
    | _ => none

instance {α : Type} [HasShape α] : HasShape (List α) where
  shape := .list (shape α)
  toDatum as := .list (as.map toDatum)
  ofDatum?
    | .list ds => ds.mapM ofDatum?
    | _ => none

/-- Natural numbers have several shapes, so the range is given with the field. -/
def natOf? : Datum → Option Nat
  | .int n => some n.toNat
  | _ => none

def ofNat (n : Nat) : Datum := .int n

def intOf? : Datum → Option Int
  | .int n => some n
  | _ => none

def ofOption {α : Type} (f : α → Datum) : Option α → Datum
  | none => .none
  | some a => .some (f a)

def optionOf? {α : Type} (f : Datum → Option α) : Datum → Option (Option α)
  | .none => some none
  | .some d => (f d).map some
  | _ => none

def parse (α : Type) [HasShape α] (text : String) : Except Json.Fault α := do
  let d ← (shape α).parse text
  match ofDatum? d with
  | some a => return a
  | none => throw ⟨.mismatch (.custom ""), none, []⟩

def ofJson (α : Type) [HasShape α] (v : Json.Value) : Except Json.Mismatch α := do
  let d ← (shape α).ofValue v
  match ofDatum? d with
  | some a => return a
  | none => throw (.custom "")

def toJson {α : Type} [HasShape α] (a : α) : Json.Value := (shape α).toValue (toDatum a)

def toText {α : Type} [HasShape α] (a : α) : String := (toJson a).compact

end CodeRepair.Schema

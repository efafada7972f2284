import CodeRepair.Schema.HasShape
import CodeRepair.Toml.Reader
import CodeRepair.Toml.Writer

/-!
Reading a TOML document along a shape, and writing a datum as one. There is no null: an optional value that is
absent is left out.
-/
namespace CodeRepair.Schema

/-- The datum of a choice: a string, or a table whose only key it is, with an empty table or array. -/
def choiceOfToml (options : List String) (v : Toml.Value) : Option Datum :=
  let find (s : String) : Option Datum := (options.findIdx? (· = s)).map .choice
  match v with
  | .string s => find s
  | .table [(s, .table [])] | .table [(s, .array [])] => find s
  | _ => none

mutual

def Shape.ofToml : Shape → Toml.Value → Option Datum
  | .bool, .bool b => some (.bool b)
  | .text, .string s | .path, .string s => some (.text s)
  | .integer range, .int n => if range.low ≤ n ∧ n ≤ range.high then some (.int n) else none
  | .optional of, v => (of.ofToml v).map .some
  | .list of, .array items => (items.mapM of.ofToml).map .list
  | .choice options, v => choiceOfToml options v
  | .record _ fields, .table members => fields.ofTomlMembers members |>.map .record
  | .record _ fields, .array items => fields.ofTomlItems items |>.map .record
  | .record _ fields, .dateTime => fields.ofTomlMembers [] |>.map .record
  | _, _ => none

def Fields.ofTomlMembers : Fields → List (String × Toml.Value) → Option (List Datum)
  | .nil, _ => some []
  | .cons name rule shape rest, members => do
    let d ←
      match members.find? (·.1 = name) with
      | some (_, v) => shape.ofToml v
      | none => (absentField name rule shape).toOption
    return d :: (← rest.ofTomlMembers members)

/-- The fields of a record written as an array, of which more items are ignored. -/
def Fields.ofTomlItems : Fields → List Toml.Value → Option (List Datum)
  | .nil, _ => some []
  | .cons _ rule shape rest, items => do
    let d ←
      match items with
      | v :: _ => shape.ofToml v
      | [] => rule.absent
    return d :: (← rest.ofTomlItems items.tail)

end

mutual

/-- A datum as a TOML value, when it has such a form: numbers must fit 64 bits with a sign. -/
def Shape.toToml : Shape → Datum → Option Toml.Value
  | .bool, .bool b => some (.bool b)
  | .text, .text s | .path, .text s => some (.string s)
  | .integer _, .int n => if -(Nat.pow 2 63) ≤ n ∧ n < Nat.pow 2 63 then some (.int n) else none
  | .optional of, .some d => of.toToml d
  | .list of, .list items => (items.mapM of.toToml).map .array
  | .choice options, .choice i => some (.string (options.getD i ""))
  | .record _ fields, .record ds => (fields.toTomlMembers ds).map .table
  | _, _ => none

def Fields.toTomlMembers : Fields → List Datum → Option (List (String × Toml.Value))
  | .cons name _ shape rest, d :: ds => do
    let ms ← rest.toTomlMembers ds
    match d with
    | .none => return ms
    | d => return (name, ← shape.toToml d) :: ms
  | _, _ => some []

end

def parseToml (α : Type) [HasShape α] (text : String) : Option α := do
  let members ← Toml.parse text
  ofDatum? (← (shape α).ofToml (.table members))

def toTomlText? {α : Type} [HasShape α] (a : α) : Option String := do
  match ← (shape α).toToml (toDatum a) with
  | .table members => return Toml.writeDocument members
  | _ => none

end CodeRepair.Schema

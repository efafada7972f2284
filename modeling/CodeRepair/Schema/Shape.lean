import CodeRepair.Json.Fault
import CodeRepair.Time.Stamp

/-!
What a value looks like in a data format. A shape is data, so one reader per format serves every type that has
a shape; a datum is a value taken apart along its shape, with the fields of a record in their order.
-/
namespace CodeRepair.Schema

/-- A value taken apart. -/
inductive Datum
  | bool (b : Bool)
  | text (s : String)
  | int (n : Int)
  | real (x : Float)
  | single (x : Float32)
  | time (t : Time.Stamp)
  | none
  | some (d : Datum)
  | list (items : List Datum)
  | choice (index : Nat)
  | tagged (index : Nat) (detail : Option String)
  | record (fields : List Datum)
  deriving Inhabited

structure IntRange where
  name : String
  low : Int
  high : Int

namespace IntRange

def u16 : IntRange := ⟨"u16", 0, Nat.pow 2 16 - 1⟩
def u32 : IntRange := ⟨"u32", 0, Nat.pow 2 32 - 1⟩
def u64 : IntRange := ⟨"u64", 0, Nat.pow 2 64 - 1⟩
def size : IntRange := ⟨"usize", 0, Nat.pow 2 64 - 1⟩
def i32 : IntRange := ⟨"i32", -(Nat.pow 2 31), Nat.pow 2 31 - 1⟩

def check (range : IntRange) : Json.Number → Except Json.Mismatch Datum
  | .whole n =>
    if range.low ≤ n ∧ n ≤ range.high then .ok (.int n) else .error (.wrongValue (.whole n) range.name)
  | .real x => .error (.wrongType (.real x) range.name)

end IntRange

/-- How a field of a record is treated when it is absent: its value then, and whether writing leaves out `none`. -/
structure FieldRule where
  absent : Option Datum
  omitNone : Bool

namespace FieldRule

def required : FieldRule := ⟨none, false⟩

def default (d : Datum) : FieldRule := ⟨some d, false⟩

/-- A field that is left out when it is `none`, and must be there in an array. -/
def leftOut : FieldRule := ⟨none, true⟩

def omitted : FieldRule := ⟨some .none, true⟩

end FieldRule

mutual

/-- What a value looks like. -/
inductive Shape
  | bool
  | text
  | path
  | integer (range : IntRange)
  | real
  | single
  | time
  | optional (of : Shape)
  | list (of : Shape)
  | choice (options : List String)
  /-- An object with the name of a variant under `kind` and, for the variants that have one, a text under
  `detail`. -/
  | tagged (name : String) (variants : List (String × Bool))
  | record (name : String) (fields : Fields)

inductive Fields
  | nil
  | cons (name : String) (rule : FieldRule) (shape : Shape) (rest : Fields)

end

namespace Fields

def length : Fields → Nat
  | nil => 0
  | cons _ _ _ rest => rest.length + 1

end Fields

def absentField (name : String) (rule : FieldRule) (shape : Shape) : Except Json.Mismatch Datum :=
  match rule.absent, shape with
  | some d, _ => .ok d
  | none, .optional _ => .ok .none
  | none, _ => .error (.missingField name)

/-- The fields of a record, from what an object has of them. -/
def Fields.complete : Fields → List (Option Datum) → Except Json.Mismatch (List Datum)
  | .nil, _ => .ok []
  | .cons name rule shape rest, slots => do
    let d ←
      match slots.head? with
      | some (some d) => .ok d
      | _ => absentField name rule shape
    return d :: (← rest.complete slots.tail)

def recordText (name : String) (fields : Fields) : String :=
  "struct " ++ name ++ " with " ++ toString fields.length ++
    (if fields.length = 1 then " element" else " elements")

def unitText (name variant : String) : String := "unit variant " ++ name ++ "::" ++ variant

def findVariant (variants : List (String × Bool)) (name : String) : Except Json.Mismatch Nat :=
  match variants.findIdx? (·.1 = name) with
  | some i => .ok i
  | none => .error (.unknownVariant name (variants.map (·.1)))

/-- A name in capitals without underscores, as types are named: `timed_out` is `TimedOut`. -/
def camelCase (name : String) : String :=
  String.ofList <| (Text.splitAt (· = '_') name.toList).flatMap fun
    | [] => []
    | c :: cs => c.toUpper :: cs

def foundValue : Json.Value → Json.Found
  | .null => .null
  | .bool b => .bool b
  | .number (.whole n) => .whole n
  | .number (.real x) => .real x
  | .string s => .string s
  | .array _ => .sequence
  | .object _ => .map

def realOf : Json.Number → Float
  | .whole n => if n < 0 then -(UInt64.ofNat n.natAbs).toFloat else (UInt64.ofNat n.natAbs).toFloat
  | .real x => x

/-- A number in single precision, rounded once. -/
def singleOf : Json.Number → Float32
  | .whole n => if n < 0 then -(UInt64.ofNat n.natAbs).toFloat32 else (UInt64.ofNat n.natAbs).toFloat32
  | .real x => x.toFloat32

def timeOf (s : String) : Except Json.Mismatch Datum :=
  match Time.Stamp.parse s.toList with
  | .ok t => .ok (.time t)
  | .error e => .error (.custom e.message)

def Shape.expected : Shape → String
  | .bool => "a boolean"
  | .text => "a string"
  | .path => "path string"
  | .integer range => range.name
  | .real => "f64"
  | .single => "f32"
  | .time => "an RFC 3339 formatted date and time string"
  | .optional of => of.expected
  | .list _ => "a sequence"
  | .choice _ => "string or map"
  | .tagged name _ => "adjacently tagged enum " ++ name
  | .record name _ => "struct " ++ name

end CodeRepair.Schema

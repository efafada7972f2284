import CodeRepair.Schema.Shape

/-!
Reading a JSON value along a shape, and writing a datum as one.
-/
namespace CodeRepair.Schema

open Json (Mismatch)

def wrongValueType {α : Type} (v : Json.Value) (expected : String) : Except Mismatch α :=
  .error (.wrongType (foundValue v) expected)

/-- The name of a choice: a string, or an object whose only key it is, with the value null. -/
def nameOf {α : Type} (check : String → Except Mismatch α) : Json.Value → Except Mismatch α
  | .string s => check s
  | .object [(s, v)] => do
    let a ← check s
    match v with
    | .null => return a
    | v => wrongValueType v "unit"
  | .object _ => .error (.wrongValue .map "map with a single key")
  | v => wrongValueType v "string or map"

def identifierOf {α : Type} (check : String → Except Mismatch α) : Json.Value → Except Mismatch α
  | .string s => check s
  | v => wrongValueType v "variant identifier"

def taggedOf (name : String) (variants : List (String × Bool)) (v : Json.Value) : Except Mismatch Datum := do
  let variantAt (i : Nat) : String × Bool := variants.getD i ("", false)
  let detail (i : Nat) (v : Json.Value) : Except Mismatch (Option String) :=
    match (variantAt i).2, v with
    | true, .string s => .ok (some s)
    | true, v => wrongValueType v Shape.text.expected
    | false, .null => .ok none
    | false, v => wrongValueType v (unitText name (camelCase (variantAt i).1))
  match v with
  | .array items =>
    match items with
    | [] => throw (.wrongLength 0 (Shape.tagged name variants).expected)
    | [k] =>
      let _ ← identifierOf (findVariant variants) k
      throw (.wrongLength 1 (Shape.tagged name variants).expected)
    | k :: d :: rest =>
      let i ← identifierOf (findVariant variants) k
      let detail ← detail i d
      if rest.isEmpty then return .tagged i detail
      else throw (.wrongLength items.length "fewer elements in array")
  | .object _ =>
    match v.get? "kind", v.get? "detail" with
    | none, _ => throw (.missingField "kind")
    | some k, none =>
      let i ← nameOf (findVariant variants) k
      if (variantAt i).2 then throw (.missingField "detail") else return .tagged i none
    | some k, some d =>
      let i ← nameOf (findVariant variants) k
      return .tagged i (← detail i d)
  | v => wrongValueType v (Shape.tagged name variants).expected

mutual

def Shape.ofValue : Shape → Json.Value → Except Mismatch Datum
  | .bool, v =>
    match v with
    | .bool b => .ok (.bool b)
    | v => wrongValueType v Shape.bool.expected
  | .text, v =>
    match v with
    | .string s => .ok (.text s)
    | v => wrongValueType v Shape.text.expected
  | .path, v =>
    match v with
    | .string s => .ok (.text s)
    | v => wrongValueType v Shape.path.expected
  | .integer range, v =>
    match v with
    | .number n => range.check n
    | v => wrongValueType v range.name
  | .real, v =>
    match v with
    | .number n => .ok (.real (realOf n))
    | v => wrongValueType v Shape.real.expected
  | .single, v =>
    match v with
    | .number n => .ok (.single (singleOf n))
    | v => wrongValueType v Shape.single.expected
  | .time, v =>
    match v with
    | .string s => timeOf s
    | v => wrongValueType v Shape.time.expected
  | .optional of, v =>
    match v with
    | .null => .ok .none
    | v => (of.ofValue v).map .some
  | .list of, v =>
    match v with
    | .array items => (items.mapM of.ofValue).map .list
    | v => wrongValueType v "a sequence"
  | .choice options, v =>
    nameOf (fun s ↦
      match options.findIdx? (· = s) with
      | some i => .ok (.choice i)
      | none => .error (.unknownVariant s options)) v
  | .tagged name variants, v => taggedOf name variants v
  | .record name fields, v =>
    match v with
    | .object members => do
      -- the members come in the order of their keys, and the first one at fault is reported
      let slots ← members.foldlM (fun slots m ↦ fields.fillSlot m.1 m.2 slots) []
      return .record (← fields.complete (fields.orderSlots slots))
    | .array items => do
      let ds ← fields.ofItems (recordText name fields) 0 items
      if fields.length < items.length then
        throw (.wrongLength items.length "fewer elements in array")
      return .record ds
    | v => wrongValueType v ("struct " ++ name)

def Fields.fillSlot : Fields → String → Json.Value → List (String × Datum) →
    Except Mismatch (List (String × Datum))
  | .nil, _, _, slots => .ok slots
  | .cons name _ shape rest, key, v, slots =>
    if key = name then do return (name, ← shape.ofValue v) :: slots else rest.fillSlot key v slots

def Fields.orderSlots : Fields → List (String × Datum) → List (Option Datum)
  | .nil, _ => []
  | .cons name _ _ rest, slots => (slots.find? (·.1 = name)).map (·.2) :: rest.orderSlots slots

def Fields.ofItems (expected : String) : Fields → Nat → List Json.Value → Except Mismatch (List Datum)
  | .nil, _, _ => .ok []
  | .cons _ rule shape rest, index, items =>
    match items with
    | v :: items => do
      let d ← shape.ofValue v
      return d :: (← rest.ofItems expected (index + 1) items)
    | [] =>
      match rule.absent with
      | some d => do return d :: (← rest.ofItems expected (index + 1) [])
      | none => .error (.wrongLength index expected)

end

mutual

def Shape.toValue : Shape → Datum → Json.Value
  | .optional _, .none => .null
  | .optional of, .some d => of.toValue d
  | .list of, .list items => .array (items.map of.toValue)
  | .choice options, .choice i => .string (options.getD i "")
  | .tagged _ variants, .tagged i detail =>
    .object (("kind", .string (variants.getD i ("", false)).1) ::
      (match detail with
      | some s => [("detail", .string s)]
      | none => []))
  | .record _ fields, .record ds => .object (fields.toMembers ds)
  | _, .bool b => .bool b
  | _, .text s => .string s
  | _, .int n => .int n
  | _, .real x => .number (.real x)
  | _, .single x => .number (.real (singleText x))
  | _, .time t => .string (String.ofList t.text)
  | _, _ => .null
where
  /-- The number whose shortest decimal is that of the single-precision number. -/
  singleText (x : Float32) : Float :=
    match Number.Binary.ofFloat32? x with
    | some b =>
      let d := b.shortest
      let y := Float.ofScientific d.digits (decide (d.exponent < 0)) d.exponent.natAbs
      if d.negative then -y else y
    | none => x.toFloat

def Fields.toMembers : Fields → List Datum → List (String × Json.Value)
  | .cons name rule shape rest, d :: ds =>
    match rule.omitNone, d with
    | true, .none => rest.toMembers ds
    | _, d => (name, shape.toValue d) :: rest.toMembers ds
  | _, _ => []

end

end CodeRepair.Schema

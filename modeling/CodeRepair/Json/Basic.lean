import CodeRepair.Number.Binary

/-!
JSON values. A number remembers whether it was written as a whole number, since readers of whole numbers
refuse `1.0`.
-/
namespace CodeRepair.Json

/-- A number: whole when it fits 64 bits with or without sign, otherwise double precision. -/
inductive Number
  | whole (n : Int)
  | real (x : Float)
  deriving Inhabited

/-- A value. The members of an object keep the order in which they are given. -/
inductive Value
  | null
  | bool (b : Bool)
  | number (n : Number)
  | string (s : String)
  | array (items : List Value)
  | object (members : List (String × Value))
  deriving Inhabited

namespace Value

def get? (v : Value) (key : String) : Option Value :=
  match v with
  | .object members => (members.find? (·.1 = key)).map (·.2)
  | _ => none

def int? : Value → Option Int
  | .number (.whole n) => some n
  | _ => none

def string? : Value → Option String
  | .string s => some s
  | _ => none

def bool? : Value → Option Bool
  | .bool b => some b
  | _ => none

def items? : Value → Option (List Value)
  | .array items => some items
  | _ => none

def present? (v : Value) (key : String) : Option Value :=
  match v.get? key with
  | some .null => none
  | other => other

def textAt (v : Value) (key default : String) : String := ((v.get? key).bind string?).getD default

def intAt (v : Value) (key : String) (default : Int) : Int := ((v.get? key).bind int?).getD default

def natAt (v : Value) (key : String) (default : Nat) : Nat := (v.intAt key default).toNat

def boolAt (v : Value) (key : String) (default : Bool) : Bool := ((v.get? key).bind bool?).getD default

def itemsAt (v : Value) (key : String) : List Value := ((v.get? key).bind items?).getD []

def textsAt (v : Value) (key : String) : List String := (v.itemsAt key).filterMap string?

def textMembersAt (v : Value) (key : String) : List (String × String) :=
  match v.get? key with
  | some (.object members) => members.filterMap fun m ↦ m.2.string?.map fun s ↦ (m.1, s)
  | _ => []

def int (n : Int) : Value := .number (.whole n)

def nat (n : Nat) : Value := .number (.whole n)

def ofOption (v : Option Value) : Value := v.getD .null

def ofString? (s : Option String) : Value := ofOption (s.map .string)

end Value

/-- The members with those of equal key reduced to the last value, in the order of the keys. -/
def sortMembers {α : Type} (members : List (String × α)) : List (String × α) :=
  members.foldl insert []
where
  insert (sorted : List (String × α)) (m : String × α) : List (String × α) :=
    match sorted with
    | [] => [m]
    | x :: rest =>
      if m.1 < x.1 then m :: x :: rest
      else if m.1 = x.1 then m :: rest
      else x :: insert rest m

mutual

/-- The value with the members of every object sorted, the last one of each key being kept. -/
def Value.canonical : Value → Value
  | .array items => .array (canonicalItems items)
  | .object members => .object (sortMembers (canonicalMembers members))
  | v => v

def canonicalItems : List Value → List Value
  | [] => []
  | v :: vs => v.canonical :: canonicalItems vs

def canonicalMembers : List (String × Value) → List (String × Value)
  | [] => []
  | (k, v) :: ms => (k, v.canonical) :: canonicalMembers ms

end

end CodeRepair.Json

import CodeRepair.Json.Basic

/-!
Values changed throughout, at every depth. The program itself has no use for this: it is for those who compare its
answers, and have to take out of them what is new in every run.
-/
namespace CodeRepair.Json

mutual

/-- The value with every string changed. The keys of objects stay. -/
def Value.mapStrings (f : String → String) : Value → Value
  | .string s => .string (f s)
  | .array items => .array (mapStringsInItems f items)
  | .object members => .object (mapStringsInMembers f members)
  | v => v

def mapStringsInItems (f : String → String) : List Value → List Value
  | [] => []
  | v :: vs => v.mapStrings f :: mapStringsInItems f vs

def mapStringsInMembers (f : String → String) : List (String × Value) → List (String × Value)
  | [] => []
  | (k, v) :: ms => (k, v.mapStrings f) :: mapStringsInMembers f ms

end

mutual

def Value.strings : Value → List String
  | .string s => [s]
  | .array items => stringsInItems items
  | .object members => stringsInMembers members
  | _ => []

def stringsInItems : List Value → List String
  | [] => []
  | v :: vs => v.strings ++ stringsInItems vs

def stringsInMembers : List (String × Value) → List String
  | [] => []
  | (_, v) :: ms => v.strings ++ stringsInMembers ms

end

mutual

def Value.without (keys : List String) : Value → Value
  | .array items => .array (withoutInItems keys items)
  | .object members => .object (withoutInMembers keys members)
  | v => v

def withoutInItems (keys : List String) : List Value → List Value
  | [] => []
  | v :: vs => v.without keys :: withoutInItems keys vs

def withoutInMembers (keys : List String) : List (String × Value) → List (String × Value)
  | [] => []
  | (k, v) :: ms =>
    if keys.contains k then withoutInMembers keys ms else (k, v.without keys) :: withoutInMembers keys ms

end

end CodeRepair.Json

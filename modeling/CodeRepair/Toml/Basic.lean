/-!
TOML values.
-/
namespace CodeRepair.Toml

/-- A value. Of dates and times only that they are ones is kept. -/
inductive Value
  | string (s : String)
  | int (n : Int)
  | float (x : Float)
  | bool (b : Bool)
  | dateTime
  | array (items : List Value)
  | table (members : List (String × Value))
  deriving Inhabited

end CodeRepair.Toml

import CodeRepair.Error
import CodeRepair.Schema.HasShape
import CodeRepair.Text.LowerCase

/-!
The languages that snippets are written in.
-/
namespace CodeRepair

inductive Language
  | python
  | cpp
  deriving DecidableEq, Repr, Inhabited

namespace Language

/-- All languages, in the order in which messages list them. -/
def all : List Language := [.python, .cpp]

def name : Language → String
  | python => "python"
  | cpp => "cpp"

def displayName : Language → String
  | python => "Python"
  | cpp => "C++"

def fileExtension : Language → String
  | python => "py"
  | cpp => "cpp"

def isCompiled : Language → Bool
  | python => false
  | cpp => true

def supported : String := ", ".intercalate (all.map name)

/-- The language that a file extension suggests; the case of ASCII letters is ignored. -/
def ofExtension? (extension : String) : Option Language :=
  let e := String.ofList (extension.toList.map Char.toLower)
  if e = "py" then some python
  else if e ∈ ["cpp", "cc", "cxx", "c++"] then some cpp
  else none

/-- The language with a name, whatever its case and the blanks around it. -/
def parse (text : String) : Except RequestError Language :=
  let name := Text.lowerCase (Text.trimmed text)
  if name ∈ ["python", "python3", "py"] then .ok python
  else if name ∈ ["cpp", "c++"] then .ok cpp
  else .error (.unsupportedLanguage name)

instance : Schema.HasShape Language where
  shape := .choice (all.map name)
  toDatum
    | python => .choice 0
    | cpp => .choice 1
  ofDatum?
    | .choice 0 => some python
    | .choice 1 => some cpp
    | _ => none

end Language

end CodeRepair

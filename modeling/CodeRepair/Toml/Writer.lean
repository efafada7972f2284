import CodeRepair.Number.Digits
import CodeRepair.Text.Search
import CodeRepair.Toml.Basic

/-!
Writing a TOML document: a header for each table that has values of its own, an empty line before each header but
the first, and an array of several items on several lines.
-/
namespace CodeRepair.Toml

/-- What decides how a string is written. -/
structure StringTraits where
  singles : Nat
  doubles : Nat
  hasBackslash : Bool
  hasLineFeed : Bool
  hasControl : Bool
  deriving DecidableEq, Repr

def longestRun (x : Char) (cs : List Char) : Nat :=
  (cs.foldl (fun (best, here) c ↦ if c = x then (max best (here + 1), here + 1) else (best, 0)) (0, 0)).1

def traits (cs : List Char) : StringTraits where
  singles := longestRun '\x27' cs
  doubles := longestRun '"' cs
  hasBackslash := '\\' ∈ cs
  hasLineFeed := '\n' ∈ cs
  hasControl := cs.any fun c ↦ c ≠ '\t' && c ≠ '\n' && (c.toNat < 0x20 || c.toNat = 0x7F)

inductive StringStyle
  | basic
  | literal
  | longBasic
  | longLiteral
  deriving DecidableEq, Repr

/-- The first of the ways that needs no escape but that of the tab, and otherwise one with escapes. -/
def chooseStyle (t : StringTraits) : StringStyle :=
  if !t.hasControl && !t.hasBackslash && t.doubles = 0 && !t.hasLineFeed then .basic
  else if !t.hasControl && t.singles = 0 && !t.hasLineFeed then .literal
  else if !t.hasControl && !t.hasBackslash && t.doubles ≤ 2 then .longBasic
  else if !t.hasControl && t.singles ≤ 2 then .longLiteral
  else if t.hasLineFeed then .longBasic
  else .basic

/-- A string with escapes. On several lines, line feeds and the first two quotes of a run stand for themselves;
`run` counts the quotes written so. -/
def escaped (long : Bool) (run : Nat) : List Char → List Char
  | [] => []
  | c :: cs =>
    let plain (text : List Char) := text ++ escaped long 0 cs
    if c = '"' then
      if long && run < 2 then '"' :: escaped long (run + 1) cs else plain ['\\', '"']
    else if c = '\\' then plain ['\\', '\\']
    else if c = '\x08' then plain ['\\', 'b']
    else if c = '\t' then plain ['\\', 't']
    else if c = '\n' then plain (if long then ['\n'] else ['\\', 'n'])
    else if c = '\x0c' then plain ['\\', 'f']
    else if c = '\r' then plain ['\\', 'r']
    else if c.toNat < 0x20 ∨ c.toNat = 0x7F then
      plain ['\\', 'u', '0', '0', (Number.digitChar (c.toNat / 16)).toUpper, (Number.digitChar (c.toNat % 16)).toUpper]
    else plain [c]

def writeString (s : String) : List Char :=
  let cs := s.toList
  let t := traits cs
  let first : List Char := if t.hasLineFeed then ['\n'] else []
  match chooseStyle t with
  | .basic => '"' :: escaped false 0 cs ++ ['"']
  | .literal => '\x27' :: cs ++ ['\x27']
  | .longBasic => ['"', '"', '"'] ++ first ++ escaped true 0 cs ++ ['"', '"', '"']
  | .longLiteral => ['\x27', '\x27', '\x27'] ++ first ++ cs ++ ['\x27', '\x27', '\x27']

def writeInt (n : Int) : List Char :=
  if n < 0 then '-' :: Number.decimalDigits n.natAbs else Number.decimalDigits n.natAbs

mutual

def writeValue : Value → List Char
  | .string s => writeString s
  | .int n => writeInt n
  | .bool b => if b then "true".toList else "false".toList
  | .array vs =>
    match vs with
    | [] => ['[', ']']
    | [v] => '[' :: writeValue v ++ [']']
    | vs => '[' :: writeItems vs ++ ['\n', ']']
  | .float _ | .dateTime | .table _ => []

def writeItems : List Value → List Char
  | [] => []
  | v :: vs => "\n    ".toList ++ writeValue v ++ ',' :: writeItems vs

end

def writePairs : List (String × Value) → List Char
  | [] => []
  | (_, .table _) :: ms => writePairs ms
  | (k, v) :: ms => k.toList ++ " = ".toList ++ writeValue v ++ '\n' :: writePairs ms

mutual

/-- The texts of a table and of the tables in it, each with its header unless it has no values of its own. -/
def writeTable (path : String) : Value → List (List Char)
  | .table ms =>
    let pairs := writePairs ms
    let own := if pairs.isEmpty then [] else ['[' :: path.toList ++ [']', '\n'] ++ pairs]
    own ++ writeTables path ms
  | _ => []

def writeTables (path : String) : List (String × Value) → List (List Char)
  | [] => []
  | (k, .table ms) :: rest => writeTable (path ++ "." ++ k) (.table ms) ++ writeTables path rest
  | _ :: rest => writeTables path rest

end

def writeDocument (ms : List (String × Value)) : String :=
  String.ofList <| ['\n'].intercalate (ms.flatMap fun (k, v) ↦ writeTable k v)

end CodeRepair.Toml

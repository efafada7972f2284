import CodeRepair.Json.Basic

/-!
Writing JSON. The compact form has no white space; the pretty form puts each item and member on a line of its
own, indented by two spaces.
-/
namespace CodeRepair.Json

def writeChar (x : Char) : List Char :=
  if x = '"' then ['\\', '"']
  else if x = '\\' then ['\\', '\\']
  else if x = '\x08' then ['\\', 'b']
  else if x = '\x0c' then ['\\', 'f']
  else if x = '\n' then ['\\', 'n']
  else if x = '\r' then ['\\', 'r']
  else if x = '\t' then ['\\', 't']
  else if x.toNat < 0x20 then
    ['\\', 'u', '0', '0', Number.digitChar (x.toNat / 16), Number.digitChar (x.toNat % 16)]
  else [x]

def writeString (s : String) : List Char := '"' :: s.toList.flatMap writeChar ++ ['"']

/-- A number; one that is not finite has no form and is written `null`. -/
def writeNumber : Number → List Char
  | .whole n => if n < 0 then '-' :: Number.decimalDigits n.natAbs else Number.decimalDigits n.natAbs
  | .real x =>
    match Number.Binary.ofFloat? x with
    | some b => b.shortest.format .message
    | none => ['n', 'u', 'l', 'l']

mutual

def writeCompact : Value → List Char
  | .null => ['n', 'u', 'l', 'l']
  | .bool b => if b then ['t', 'r', 'u', 'e'] else ['f', 'a', 'l', 's', 'e']
  | .number n => writeNumber n
  | .string s => writeString s
  | .array items => '[' :: writeCompactItems items ++ [']']
  | .object members => '\x7b' :: writeCompactMembers members ++ ['\x7d']

def writeCompactItems : List Value → List Char
  | [] => []
  | [v] => writeCompact v
  | v :: vs => writeCompact v ++ ',' :: writeCompactItems vs

def writeCompactMembers : List (String × Value) → List Char
  | [] => []
  | [(k, v)] => writeString k ++ ':' :: writeCompact v
  | (k, v) :: ms => writeString k ++ ':' :: writeCompact v ++ ',' :: writeCompactMembers ms

end

def newLine (depth : Nat) : List Char := '\n' :: List.replicate (2 * depth) ' '

mutual

/-- A value on several lines, the first of which starts at the given depth. -/
def writePretty (depth : Nat) : Value → List Char
  | .null => ['n', 'u', 'l', 'l']
  | .bool b => if b then ['t', 'r', 'u', 'e'] else ['f', 'a', 'l', 's', 'e']
  | .number n => writeNumber n
  | .string s => writeString s
  | .array [] => ['[', ']']
  | .array items => '[' :: writePrettyItems (depth + 1) items ++ newLine depth ++ [']']
  | .object [] => ['\x7b', '\x7d']
  | .object members => '\x7b' :: writePrettyMembers (depth + 1) members ++ newLine depth ++ ['\x7d']

def writePrettyItems (depth : Nat) : List Value → List Char
  | [] => []
  | [v] => newLine depth ++ writePretty depth v
  | v :: vs => newLine depth ++ writePretty depth v ++ ',' :: writePrettyItems depth vs

def writePrettyMembers (depth : Nat) : List (String × Value) → List Char
  | [] => []
  | [(k, v)] => newLine depth ++ writeString k ++ ':' :: ' ' :: writePretty depth v
  | (k, v) :: ms =>
    newLine depth ++ writeString k ++ ':' :: ' ' :: writePretty depth v ++ ',' :: writePrettyMembers depth ms

end

def Value.compact (v : Value) : String := String.ofList (writeCompact v)

def Value.pretty (v : Value) : String := String.ofList (writePretty 0 v)

end CodeRepair.Json

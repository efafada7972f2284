import CodeRepair.Json.Access

/-!
Reading a JSON text as a value. Members of equal key are all kept, in the order of the text.
-/
namespace CodeRepair.Json

open Access

mutual

/-- The value under the cursor, nested at most `depth - 1` deep. -/
def readValue (fuel depth : Nat) (c : Cursor) : Except Fault (Value × Cursor) :=
  match fuel with
  | 0 => c.fail .tooDeep
  | fuel + 1 => do
    let (x, c) ← atValue c
    if x = 'n' then
      return (.null, ← c.advance.word ['u', 'l', 'l'])
    else if x = 't' then
      return (.bool true, ← c.advance.word ['r', 'u', 'e'])
    else if x = 'f' then
      return (.bool false, ← c.advance.word ['a', 'l', 's', 'e'])
    else if x = '-' then
      let (n, c) ← Lexeme.number c.advance true
      return (.number n, c)
    else if x.isDigit then
      let (n, c) ← Lexeme.number c false
      return (.number n, c)
    else if x = '"' then
      let (s, c) ← Lexeme.string c.advance
      return (.string s, c)
    else if x = '[' then
      if depth ≤ 1 then c.failNext .tooDeep
      else
        let (items, c) ← readItems fuel (depth - 1) true [] c.advance
        return (.array items, ← closed closeArray c)
    else if x = '\x7b' then
      if depth ≤ 1 then c.failNext .tooDeep
      else
        let (members, c) ← readMembers fuel (depth - 1) true [] c.advance
        return (.object members, ← closed closeObject c)
    else c.failNext .noValue

def readItems (fuel depth : Nat) (first : Bool) (done : List Value) (c : Cursor) :
    Except Fault (List Value × Cursor) :=
  match fuel with
  | 0 => c.fail .tooDeep
  | fuel + 1 => do
    match ← item? first c with
    | none => return (done.reverse, c)
    | some c =>
      let (v, c) ← readValue fuel depth c
      readItems fuel depth false (v :: done) c

def readMembers (fuel depth : Nat) (first : Bool) (done : List (String × Value)) (c : Cursor) :
    Except Fault (List (String × Value) × Cursor) :=
  match fuel with
  | 0 => c.fail .tooDeep
  | fuel + 1 => do
    match ← key? first c with
    | none => return (done.reverse, c)
    | some (key, c) =>
      let (v, c) ← readValue fuel depth (← colon c)
      readMembers fuel depth false ((key, v) :: done) c

end

/-- Fuel that no text exhausts: each call consumes a character or hands on to one that does. -/
def fuelFor (c : Cursor) : Nat := 3 * c.rest.length + 3

def depthLimit : Nat := 128

def parseWith (depth : Nat) (text : String) : Except Fault Value := do
  let c := Cursor.ofChars text.toList
  let (v, c) ← readValue (fuelFor c) depth c
  finish c
  return v

def parse (text : String) : Except Fault Value := parseWith depthLimit text

end CodeRepair.Json

import CodeRepair.Json.Fault
import CodeRepair.Text.Utf8

/-!
A place in a JSON text, with the steps that readers take from it: over white space, over one character, over
a word. Every step either consumes characters from the front of the rest or leaves it.
-/
namespace CodeRepair.Json

/-- The rest of a text and the place where it starts. -/
structure Cursor where
  rest : List Char
  line : Nat
  column : Nat

namespace Cursor

def ofChars (cs : List Char) : Cursor := ⟨cs, 1, 0⟩

def position (c : Cursor) : Position := ⟨c.line, c.column⟩

/-- The place after one more byte, where the character under the cursor is reported. -/
def nextPosition (c : Cursor) : Position :=
  match c.rest with
  | [] => c.position
  | x :: _ => if x = '\n' then ⟨c.line + 1, 0⟩ else ⟨c.line, c.column + 1⟩

def fail {α : Type} (c : Cursor) (cause : Cause) : Except Fault α := .error ⟨cause, some c.position, []⟩

/-- A failure at the character under the cursor. -/
def failNext {α : Type} (c : Cursor) (cause : Cause) : Except Fault α :=
  .error ⟨cause, some c.nextPosition, []⟩

def past (c : Cursor) (x : Char) (rest : List Char) : Cursor :=
  if x = '\n' then ⟨rest, c.line + 1, 0⟩ else ⟨rest, c.line, c.column + Text.Utf8.width x⟩

def advance (c : Cursor) : Cursor :=
  match c.rest with
  | [] => c
  | x :: rest => c.past x rest

def peek? (c : Cursor) : Option Char := c.rest.head?

def isSpace (x : Char) : Bool := x = ' ' || x = '\n' || x = '\t' || x = '\r'

def skipWhile (p : Char → Bool) (rest : List Char) (c : Cursor) : Cursor :=
  match rest with
  | [] => ⟨[], c.line, c.column⟩
  | x :: rest => if p x then skipWhile p rest (c.past x rest) else ⟨x :: rest, c.line, c.column⟩

def skipSpace (c : Cursor) : Cursor := skipWhile isSpace c.rest c

def positionAfterBytes? : Nat → List Char → Position → Option Position
  | 0, _, p => some p
  | _ + 1, [], _ => none
  | n + 1, x :: rest, p =>
    if x = '\n' then positionAfterBytes? n rest ⟨p.line + 1, 0⟩
    else
      let w := Text.Utf8.width x
      if n + 1 < w then some ⟨p.line, p.column + (n + 1)⟩
      else positionAfterBytes? (n + 1 - w) rest ⟨p.line, p.column + w⟩
termination_by _ rest => rest.length

def endPosition (c : Cursor) : Position := (skipWhile (fun _ ↦ true) c.rest c).position

def word (c : Cursor) : List Char → Except Fault Cursor
  | [] => .ok c
  | w :: ws =>
    match c.peek? with
    | none => c.fail .endInValue
    | some x => if x = w then c.advance.word ws else c.failNext .badWord

end Cursor

end CodeRepair.Json

import CodeRepair.Json.Lexeme

/-!
The steps of reading that all readers of a JSON text share: over the punctuation of arrays and objects, and
over a value whose content is of no interest.
-/
namespace CodeRepair.Json.Access

open Cursor

def atValue (c : Cursor) : Except Fault (Char × Cursor) :=
  let c := c.skipSpace
  match c.peek? with
  | some x => .ok (x, c)
  | none => c.failNext .endInValue

/-- The cursor at the next item of an array, none at its end. -/
def item? (first : Bool) (c : Cursor) : Except Fault (Option Cursor) :=
  let c := c.skipSpace
  match c.peek? with
  | none => c.failNext .endInArray
  | some x =>
    if x = ']' then .ok none
    else if first then .ok (some c)
    else if x = ',' then
      let c := c.advance.skipSpace
      match c.peek? with
      | none => c.failNext .endInValue
      | some y => if y = ']' then c.failNext .trailingComma else .ok (some c)
    else c.failNext .noCommaOrBracket

def key? (first : Bool) (c : Cursor) : Except Fault (Option (String × Cursor)) :=
  let c := c.skipSpace
  match c.peek? with
  | none => c.failNext .endInObject
  | some x =>
    if x = '\x7d' then .ok none
    else if first then
      if x = '"' then (Lexeme.string c.advance).map some else c.failNext .keyNotString
    else if x = ',' then
      let c := c.advance.skipSpace
      match c.peek? with
      | none => c.failNext .endInValue
      | some y =>
        if y = '"' then (Lexeme.string c.advance).map some
        else if y = '\x7d' then c.failNext .trailingComma
        else c.failNext .keyNotString
    else c.failNext .noCommaOrBrace

def colon (c : Cursor) : Except Fault Cursor :=
  let c := c.skipSpace
  match c.peek? with
  | none => c.failNext .endInObject
  | some x => if x = ':' then .ok c.advance else c.failNext .noColon

/-- The cursor where the closing bracket of an array was looked for, and the failure if there is none. -/
def closeArray (c : Cursor) : Cursor × Option Fault :=
  let c := c.skipSpace
  let missing (c : Cursor) (cause : Cause) : Cursor × Option Fault := (c, some ⟨cause, some c.nextPosition, []⟩)
  match c.peek? with
  | none => missing c .endInArray
  | some x =>
    if x = ']' then (c.advance, none)
    else if x = ',' then
      -- The cursor is past the comma here, so that a failure after it is reported there.
      let c := c.advance.skipSpace
      missing c (if c.peek? = some ']' then .trailingComma else .trailingCharacters)
    else missing c .trailingCharacters

/-- The cursor where the closing brace of an object was looked for, and the failure if there is none. -/
def closeObject (c : Cursor) : Cursor × Option Fault :=
  let c := c.skipSpace
  let missing (cause : Cause) : Cursor × Option Fault := (c, some ⟨cause, some c.nextPosition, []⟩)
  match c.peek? with
  | none => missing .endInObject
  | some x =>
    if x = '\x7d' then (c.advance, none)
    else if x = ',' then missing .trailingComma
    else missing .trailingCharacters

def closed (close : Cursor → Cursor × Option Fault) (c : Cursor) : Except Fault Cursor :=
  match close c with
  | (after, none) => .ok after
  | (_, some fault) => .error fault

/-- A failure of what stands between brackets, reported where the closing bracket was looked for. -/
def failClosing {α : Type} (close : Cursor → Cursor × Option Fault) (c : Cursor) (m : Mismatch) :
    Except Fault α :=
  .error ⟨.mismatch m, some (close c).1.position, []⟩

def finish (c : Cursor) : Except Fault Unit :=
  let c := c.skipSpace
  match c.peek? with
  | none => .ok ()
  | some _ => c.failNext .trailingCharacters

/-! Skipping a value needs no recursion: the brackets still open are kept on a stack. -/

def skipString (c : Cursor) : List Char → Except Fault Cursor
  | [] => .error ⟨.endInString, some c.position, []⟩
  | '\\' :: 'u' :: rest =>
    let start := (c.past '\\' []).past 'u' rest
    -- Four bytes are looked at together, whatever characters they belong to.
    match positionAfterBytes? 4 rest start.position with
    | none => .error ⟨.endInString, some start.endPosition, []⟩
    | some p =>
      match rest with
      | h₁ :: h₂ :: h₃ :: h₄ :: rest =>
        if [h₁, h₂, h₃, h₄].all fun h ↦ (Number.hexValue? h).isSome then
          skipString ⟨rest, start.line, start.column + 4⟩ rest
        else .error ⟨.badEscape, some p, []⟩
      | _ => .error ⟨.badEscape, some p, []⟩
  | '\\' :: x :: rest =>
    let next : Cursor := ⟨x :: rest, c.line, c.column + 1⟩
    if (Lexeme.simpleEscape? x).isSome then skipString (next.past x rest) rest else next.failNext .badEscape
  | x :: rest =>
    let here : Cursor := ⟨x :: rest, c.line, c.column⟩
    let next := here.past x rest
    if x = '"' then .ok next
    else if x = '\\' then .error ⟨.endInString, some next.position, []⟩
    else if x.toNat < 0x20 then here.fail .controlCharacter
    else skipString next rest

def skipNumber (c : Cursor) : Except Fault Cursor := do
  let (whole, after) := Lexeme.digits c
  let c ←
    match whole with
    | [] => c.failNext .badNumber
    | d :: ds => if d = 0 ∧ ds ≠ [] then c.advance.failNext .badNumber else .ok after
  let c ←
    if c.peek? = some '.' then
      match Lexeme.digits c.advance with
      | ([], _) => c.advance.failNext .badNumber
      | (_, after) => .ok after
    else .ok c
  if c.peek? = some 'e' ∨ c.peek? = some 'E' then
    let c := c.advance
    let c := if c.peek? = some '+' ∨ c.peek? = some '-' then c.advance else c
    match Lexeme.digits c with
    | ([], _) => c.failNext .badNumber
    | (_, after) => .ok after
  else .ok c

/-- Where a skipping reader stands: before a value; after a value or an opening bracket. -/
inductive SkipState
  | value
  | inside (afterValue : Bool)

/-- The cursor after the value that is being skipped, inside the open brackets `stack`. -/
def skipFrom (state : SkipState) (stack : List Char) (c : Cursor) : Nat → Except Fault Cursor
  | 0 => .ok c
  | fuel + 1 =>
    match state, stack with
    | .value, _ =>
      let c := c.skipSpace
      match c.peek? with
      | none => c.failNext .endInValue
      | some x => do
        if x = '[' ∨ x = '\x7b' then skipFrom (.inside false) (x :: stack) c.advance fuel
        else
          let c ←
            if x = 'n' then c.advance.word ['u', 'l', 'l']
            else if x = 't' then c.advance.word ['r', 'u', 'e']
            else if x = 'f' then c.advance.word ['a', 'l', 's', 'e']
            else if x = '-' then skipNumber c.advance
            else if x.isDigit then skipNumber c
            else if x = '"' then skipString c.advance c.advance.rest
            else c.failNext .noValue
          skipFrom (.inside true) stack c fuel
    -- No bracket is open any more: the value is over.
    | .inside _, [] => .ok c
    | .inside afterValue, open_ :: outer =>
      let member (c : Cursor) : Except Fault Cursor := do
        if open_ = '\x7b' then
          let c := c.skipSpace
          let c ←
            match c.peek? with
            | some '"' => skipString c.advance c.advance.rest
            | some _ => c.failNext .keyNotString
            | none => c.failNext .endInObject
          colon c
        else return c
      let c := c.skipSpace
      match c.peek? with
      | none => c.failNext (if open_ = '[' then .endInArray else .endInObject)
      | some x => do
        if x = ',' ∧ afterValue then skipFrom .value stack (← member c.advance) fuel
        else if (x = ']' ∧ open_ = '[') ∨ (x = '\x7d' ∧ open_ = '\x7b') then
          skipFrom (.inside true) outer c.advance fuel
        else if afterValue then c.failNext (if open_ = '[' then .noCommaOrBracket else .noCommaOrBrace)
        else skipFrom .value stack (← member c) fuel

/-- The cursor after a value of any kind, without a bound on its depth. -/
def skip (c : Cursor) : Except Fault Cursor := skipFrom .value [] c (2 * c.rest.length + 2)

end CodeRepair.Json.Access

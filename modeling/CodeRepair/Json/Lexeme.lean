import CodeRepair.Json.Cursor

/-!
Strings and numbers of a JSON text. A string is read by a machine that looks at one character at a time, so
that it is structural in the text; a number is cut into runs of digits first and valued afterwards.
-/
namespace CodeRepair.Json.Lexeme

open Cursor

inductive StringState
  | plain
  | escaped
  /-- Inside `\uXXXX`: digits owed, value so far, and the high surrogate this must complete. -/
  | hex (owed value : Nat) (high : Option Nat)
  /-- After a high surrogate, where a backslash must follow. -/
  | pairSlash (high : Nat)
  | pairLetter (high : Nat)

def simpleEscape? (x : Char) : Option Char :=
  if x = '"' ∨ x = '\\' ∨ x = '/' then some x
  else if x = 'b' then some '\x08'
  else if x = 'f' then some '\x0c'
  else if x = 'n' then some '\n'
  else if x = 'r' then some '\r'
  else if x = 't' then some '\t'
  else none

/-- What four hexadecimal digits mean: a character, or half of one. -/
def unit (value : Nat) (high : Option Nat) : Except Cause (Char ⊕ Nat) :=
  match high with
  | some h =>
    if 0xDC00 ≤ value ∧ value ≤ 0xDFFF then
      .ok (.inl (Char.ofNat ((h - 0xD800) * 0x400 + (value - 0xDC00) + 0x10000)))
    else .error .loneSurrogate
  | none =>
    if 0xDC00 ≤ value ∧ value ≤ 0xDFFF then .error .loneSurrogate
    else if 0xD800 ≤ value ∧ value ≤ 0xDBFF then .ok (.inr value)
    else .ok (.inl (Char.ofNat value))

/-- The rest of a string after `done`, which is held backwards, and the cursor after its closing quote. -/
def stringFrom (state : StringState) (done : List Char) (c : Cursor) :
    List Char → Except Fault (List Char × Cursor)
  | [] => .error ⟨.endInString, some c.position, []⟩
  | x :: rest =>
    let here : Cursor := ⟨x :: rest, c.line, c.column⟩
    let next := here.past x rest
    match state with
    | .plain =>
      if x = '"' then .ok (done.reverse, next)
      else if x = '\\' then stringFrom .escaped done next rest
      else if x.toNat < 0x20 then here.failNext .controlCharacter
      else stringFrom .plain (x :: done) next rest
    | .escaped =>
      if x = 'u' then stringFrom (.hex 4 0 none) done next rest
      else match simpleEscape? x with
        | some y => stringFrom .plain (y :: done) next rest
        | none => here.failNext .badEscape
    | .hex owed value high =>
      match Number.hexValue? x with
      | none =>
        -- A reader that takes four bytes at once finds the fault only after all of them.
        match positionAfterBytes? owed (x :: rest) here.position with
        | some p => .error ⟨.badEscape, some p, []⟩
        | none => .error ⟨.endInString, some here.endPosition, []⟩
      | some d =>
        if owed ≤ 1 then
          match unit (value * 16 + d) high with
          | .ok (.inl y) => stringFrom .plain (y :: done) next rest
          | .ok (.inr h) => stringFrom (.pairSlash h) done next rest
          | .error cause => next.fail cause
        else stringFrom (.hex (owed - 1) (value * 16 + d) high) done next rest
    | .pairSlash high =>
      if x = '\\' then stringFrom (.pairLetter high) done next rest else here.failNext .unpairedSurrogate
    | .pairLetter high =>
      if x = 'u' then stringFrom (.hex 4 0 (some high)) done next rest else here.failNext .unpairedSurrogate

def string (c : Cursor) : Except Fault (String × Cursor) := do
  let (cs, c) ← stringFrom .plain [] c c.rest
  return (String.ofList cs, c)

def digits (c : Cursor) : List Nat × Cursor :=
  let run := c.rest.takeWhile Char.isDigit
  (run.filterMap Number.digitValue?, ⟨c.rest.drop run.length, c.line, c.column + run.length⟩)

/-- The largest whole number kept exactly. -/
def maxWhole : Nat := Nat.pow 2 64 - 1

/-- The digits appended to a whole number for as long as it stays exact, and how many were left over. -/
def accumulate (n : Nat) : List Nat → Nat × Nat
  | [] => (n, 0)
  | d :: ds => if maxWhole < n * 10 + d then (n, ds.length + 1) else accumulate (n * 10 + d) ds

/-- `x · 10 ^ e` in double precision, one rounding for each factor up to `10 ^ 308`; none on overflow. -/
def scale? (x : Float) (e : Int) : Option Float :=
  if e.natAbs ≤ 308 then
    if 0 ≤ e then
      let y := x * Float.ofScientific 1 false e.natAbs
      if y.isInf then none else some y
    else some (x / Float.ofScientific 1 false e.natAbs)
  -- Past the largest power of ten, large steps down go on until the number is zero or the rest is small.
  else if x == 0 then some x
  else if 0 ≤ e then none
  else scale? (x / Float.ofScientific 1 false 308) (e + 308)
termination_by e.natAbs
decreasing_by omega

def real (c : Cursor) (negative : Bool) (significand : Nat) (power : Int) : Except Fault (Number × Cursor) :=
  match scale? (UInt64.ofNat significand).toFloat power with
  | some x => .ok (.real (if negative then -x else x), c)
  | none => c.fail .numberTooLarge

/-- How many digits of an exponent can be read before it exceeds 32 bits, if it does. -/
def exponentOverflow? (n : Nat) : List Nat → Option Nat
  | [] => none
  | d :: ds => if Nat.pow 2 31 - 1 < n * 10 + d then some 1 else (exponentOverflow? (n * 10 + d) ds).map (· + 1)

def exponent (c : Cursor) (negative : Bool) (significand : Nat) (power : Int) :
    Except Fault (Number × Cursor) :=
  let c := c.advance
  let (minus, c) :=
    match c.peek? with
    | some '+' => (false, c.advance)
    | some '-' => (true, c.advance)
    | _ => (false, c)
  match digits c with
  | ([], _) => if c.rest.isEmpty then c.fail .endInValue else c.failNext .badNumber
  | (ds, after) =>
    match exponentOverflow? 0 ds with
    | some read =>
      -- Zero stays zero under any exponent, and a small enough number becomes zero.
      if significand ≠ 0 && !minus then
        .error ⟨.numberTooLarge, some ⟨c.line, c.column + read⟩, []⟩
      else .ok (.real (if negative then -0.0 else 0.0), after)
    | none =>
      let e : Int := Number.ofDigits 10 ds
      real after negative significand (if minus then power - e else power + e)

def fraction (c : Cursor) (negative : Bool) (significand : Nat) (dropped : Nat) :
    Except Fault (Number × Cursor) :=
  let c := c.advance
  match digits c with
  | ([], _) => c.failNext (if c.rest.isEmpty then .endInValue else .badNumber)
  | (ds, after) =>
    let (significand, left) := accumulate significand ds
    let power : Int := (dropped : Int) - ((ds.length - left : Nat) : Int)
    match after.peek? with
    | some 'e' | some 'E' => exponent after negative significand power
    | _ => real after negative significand power

def number (c : Cursor) (negative : Bool) : Except Fault (Number × Cursor) :=
  match digits c with
  | ([], _) => if c.rest.isEmpty then c.fail .endInValue else c.failNext .badNumber
  | (d :: ds, after) =>
    if d = 0 ∧ ds ≠ [] then c.advance.failNext .badNumber
    else
      let (significand, dropped) := accumulate 0 (d :: ds)
      match after.peek? with
      | some '.' => fraction after negative significand dropped
      | some 'e' | some 'E' => exponent after negative significand dropped
      | _ =>
        if dropped ≠ 0 then real after negative significand dropped
        else if !negative then .ok (.whole significand, after)
        -- Minus zero, and what no signed number of 64 bits holds, is kept as a real.
        else if significand = 0 ∨ Nat.pow 2 63 < significand then
          .ok (.real (-(UInt64.ofNat significand).toFloat), after)
        else .ok (.whole (-(significand : Int)), after)

end CodeRepair.Json.Lexeme

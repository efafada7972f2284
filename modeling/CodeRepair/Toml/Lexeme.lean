import CodeRepair.Number.Digits
import CodeRepair.Text.Search
import CodeRepair.Time.Calendar
import CodeRepair.Toml.Basic

/-!
The smallest parts of a TOML text: blanks, comments, strings, numbers, dates. A reader gives what it has read and
the rest of the text, or nothing when the text is not of its kind.
-/
namespace CodeRepair.Toml

/-- A reader of the front of a text. -/
abbrev Reader (α : Type) := List Char → Option (α × List Char)

def isBlank (c : Char) : Bool := c = ' ' || c = '\t'

def skipBlanks (cs : List Char) : List Char := cs.dropWhile isBlank

def isCommentChar (c : Char) : Bool := c = '\t' || (0x20 ≤ c.toNat && c.toNat ≠ 0x7F)

def lineBreak? : List Char → Option (List Char)
  | '\n' :: rest => some rest
  | '\r' :: '\n' :: rest => some rest
  | _ => none

def skipComment : List Char → List Char
  | '#' :: rest => rest.dropWhile isCommentChar
  | cs => cs

def skipLines (cs : List Char) : Nat → List Char
  | 0 => cs
  | fuel + 1 =>
    let cs := skipComment (skipBlanks cs)
    match lineBreak? cs with
    | some rest => skipLines rest fuel
    | none => cs

/-- The text after the end of a line, before which there may be blanks and a comment. -/
def endLine? (cs : List Char) : Option (List Char) :=
  match skipComment (skipBlanks cs) with
  | [] => some []
  | cs => lineBreak? cs

def scalar? (n : Nat) : Option Char :=
  if n < 0xD800 ∨ (0xE000 ≤ n ∧ n < 0x110000) then some (Char.ofNat n) else none

def hexEscape (count : Nat) : Reader Char := fun cs ↦ do
  let digits ← (cs.take count).mapM Number.hexValue?
  if digits.length < count then none
  return (← scalar? (Number.ofDigits 16 digits), cs.drop count)

def escape : Reader Char
  | 'b' :: rest => some ('\x08', rest)
  | 't' :: rest => some ('\t', rest)
  | 'n' :: rest => some ('\n', rest)
  | 'f' :: rest => some ('\x0c', rest)
  | 'r' :: rest => some ('\r', rest)
  | '"' :: rest => some ('"', rest)
  | '\\' :: rest => some ('\\', rest)
  | 'u' :: rest => hexEscape 4 rest
  | 'U' :: rest => hexEscape 8 rest
  | _ => none

def basicString (done : List Char) (cs : List Char) : Nat → Option (List Char × List Char)
  | 0 => none
  | fuel + 1 =>
    match cs with
    | '"' :: rest => some (done.reverse, rest)
    | '\\' :: rest => do
      let (c, rest) ← escape rest
      basicString (c :: done) rest fuel
    | c :: rest => if isCommentChar c then basicString (c :: done) rest fuel else none
    | [] => none

def literalString (cs : List Char) : Option (List Char × List Char) :=
  let body := cs.takeWhile fun c ↦ isCommentChar c && c ≠ '\x27'
  match cs.drop body.length with
  | '\x27' :: rest => some (body, rest)
  | _ => none

def countQuotes (quote : Char) (cs : List Char) : Nat := (cs.takeWhile (· = quote)).length

def skipWhite (cs : List Char) : Nat → List Char
  | 0 => cs
  | fuel + 1 =>
    let cs := skipBlanks cs
    match lineBreak? cs with
    | some rest => skipWhite rest fuel
    | none => cs

/-- The rest of a string on several lines. Up to two quotes stand for themselves, and so do two before the three
that close the string. With escapes, a backslash at the end of a line joins it to the next text. -/
def longString (quote : Char) (escapes : Bool) (done : List Char) (cs : List Char) :
    Nat → Option (List Char × List Char)
  | 0 => none
  | fuel + 1 =>
    match cs with
    | [] => none
    | c :: rest =>
      if c = quote then
        let n := countQuotes quote cs
        if n < 3 then longString quote escapes (List.replicate n quote ++ done) (cs.drop n) fuel
        else if n ≤ 5 then some ((List.replicate (n - 3) quote ++ done).reverse, cs.drop n)
        else none
      else if escapes ∧ c = '\\' then
        match lineBreak? (skipBlanks rest) with
        | some after => longString quote escapes done (skipWhite after (after.length + 1)) fuel
        | none => do
          let (x, rest) ← escape rest
          longString quote escapes (x :: done) rest fuel
      else
        match lineBreak? cs with
        | some rest => longString quote escapes ('\n' :: done) rest fuel
        | none => if isCommentChar c then longString quote escapes (c :: done) rest fuel else none

def dropLineBreak (cs : List Char) : List Char := (lineBreak? cs).getD cs

def shortString : Reader String
  | '"' :: rest => (basicString [] rest (rest.length + 1)).map fun (s, rest) ↦ (String.ofList s, rest)
  | '\x27' :: rest => (literalString rest).map fun (s, rest) ↦ (String.ofList s, rest)
  | _ => none

def string : Reader String
  | '"' :: '"' :: '"' :: rest =>
    (longString '"' true [] (dropLineBreak rest) (rest.length + 1)).map fun (s, rest) ↦ (String.ofList s, rest)
  | '\x27' :: '\x27' :: '\x27' :: rest =>
    (longString '\x27' false [] (dropLineBreak rest) (rest.length + 1)).map fun (s, rest) ↦ (String.ofList s, rest)
  | cs => shortString cs

/-- Digits, with single underscores between them. -/
def digitRun (isDigit : Char → Bool) : Reader (List Char) := fun cs ↦
  let run := cs.takeWhile fun c ↦ isDigit c || c = '_'
  let doubled := (run.zip run.tail).any fun p ↦ p.1 = '_' && p.2 = '_'
  if run.isEmpty || run.head? = some '_' || run.getLast? = some '_' || doubled then none
  else some (run.filter (· ≠ '_'), cs.drop run.length)

def sign : List Char → Bool × List Char
  | '+' :: rest => (false, rest)
  | '-' :: rest => (true, rest)
  | cs => (false, cs)

/-- A number when it fits 64 bits with a sign. -/
def fits (n : Int) : Option Int := if -(Nat.pow 2 63) ≤ n ∧ n < Nat.pow 2 63 then some n else none

def decimalRun : Reader (List Char) := fun cs ↦ do
  let (digits, rest) ← digitRun Char.isDigit cs
  -- No zero stands in front, not even one that an underscore sets apart.
  if digits.head? = some '0' ∧ (digits.length ≠ 1 ∨ cs.tail.head? = some '_') then none
  return (digits, rest)

def digitsValue (base : Nat) (digits : List Char) : Nat :=
  Number.ofDigits base (digits.filterMap Number.hexValue?)

def integer : Reader Int := fun cs ↦
  let based (base : Nat) (isDigit : Char → Bool) (rest : List Char) : Option (Int × List Char) := do
    let (digits, rest) ← digitRun isDigit rest
    return (← fits (digitsValue base digits), rest)
  match cs with
  | '0' :: 'x' :: rest => based 16 (fun c ↦ (Number.hexValue? c).isSome) rest
  | '0' :: 'o' :: rest => based 8 (fun c ↦ '0' ≤ c && c ≤ '7') rest
  | '0' :: 'b' :: rest => based 2 (fun c ↦ c = '0' || c = '1') rest
  | cs => do
    let (minus, rest) := sign cs
    let (digits, rest) ← decimalRun rest
    let n : Int := digitsValue 10 digits
    return (← fits (if minus then -n else n), rest)

def exponent (cs : List Char) : Option (Option Int × List Char) :=
  match cs with
  | c :: rest =>
    if c = 'e' ∨ c = 'E' then do
      let (minus, rest) := sign rest
      let (digits, rest) ← digitRun Char.isDigit rest
      let n : Int := digitsValue 10 digits
      return (some (if minus then -n else n), rest)
    else some (none, cs)
  | [] => some (none, [])

/-- A number with a fraction or an exponent, or one of the words for infinity and NaN. -/
def float : Reader Float := fun cs ↦
  let (minus, unsigned) := sign cs
  let signed (x : Float) : Float := if minus then -x else x
  match unsigned with
  | 'i' :: 'n' :: 'f' :: rest => some (signed (1 / 0), rest)
  | 'n' :: 'a' :: 'n' :: rest => some (signed (0 / 0), rest)
  | _ => do
    let (whole, rest) ← decimalRun unsigned
    let (fraction, rest) ←
      match rest with
      | '.' :: rest => digitRun Char.isDigit rest
      | rest => some ([], rest)
    let (power, rest) ← exponent rest
    if fraction.isEmpty ∧ power.isNone then none
    let scale : Int := power.getD 0 - fraction.length
    let significand := digitsValue 10 (whole ++ fraction)
    -- beyond this a number with that many digits is zero or infinite
    let far : Int := 400 + (whole.length + fraction.length)
    let x : Float :=
      if significand = 0 ∨ scale < -far then 0
      else if far < scale then 1 / 0
      else Float.ofScientific significand (decide (scale < 0)) scale.natAbs
    if x.isInf ∧ !minus then none
    return (signed x, rest)

def fixedDigits (count : Nat) : Reader Nat := fun cs ↦ do
  let digits ← (cs.take count).mapM Number.digitValue?
  if digits.length < count then none
  return (Number.ofDigits 10 digits, cs.drop count)

def mark (c : Char) : List Char → Option (List Char)
  | x :: rest => if x = c then some rest else none
  | [] => none

def date : Reader Unit := fun cs ↦ do
  let (year, cs) ← fixedDigits 4 cs
  let (month, cs) ← fixedDigits 2 (← mark '-' cs)
  let (day, cs) ← fixedDigits 2 (← mark '-' cs)
  if month < 1 ∨ 12 < month ∨ day < 1 ∨ Time.daysInMonth year month < day then none
  return ((), cs)

def timeOfDay : Reader Unit := fun cs ↦ do
  let (hour, cs) ← fixedDigits 2 cs
  let (minute, cs) ← fixedDigits 2 (← mark ':' cs)
  let (second, cs) ← fixedDigits 2 (← mark ':' cs)
  if 23 < hour ∨ 59 < minute ∨ 60 < second then none
  match cs with
  | '.' :: rest =>
    let run := rest.takeWhile Char.isDigit
    if run.isEmpty then none else some ((), rest.drop run.length)
  | cs => some ((), cs)

def offset (cs : List Char) : Option (List Char) :=
  match cs with
  | 'Z' :: rest | 'z' :: rest => some rest
  | '+' :: rest | '-' :: rest => do
    let (hour, rest) ← fixedDigits 2 rest
    let (minute, rest) ← fixedDigits 2 (← mark ':' rest)
    if 23 < hour ∨ 59 < minute then none
    some rest
  | cs => some cs

/-- A date, a time, or both. -/
def dateTime : Reader Unit := fun cs ↦
  match date cs with
  | none => timeOfDay cs
  | some (_, rest) =>
    match rest with
    | c :: after =>
      if c = 'T' ∨ c = 't' ∨ (c = ' ' ∧ (after.head?.map Char.isDigit) = some true) then do
        let (_, after) ← timeOfDay after
        return ((), ← offset after)
      else some ((), rest)
    | [] => some ((), [])

end CodeRepair.Toml

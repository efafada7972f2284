import CodeRepair.Time.Calendar
import CodeRepair.Text.Blank
import CodeRepair.Text.Search
import CodeRepair.Text.Utf8
import CodeRepair.Number.Digits

/-!
Instants and their text. They are written in UTC with a `Z`; what is read may have another offset, blanks
between its parts, a signed year, and any number of fraction digits, of which nine count.
-/
namespace CodeRepair.Time

/-- An instant: seconds since the start of 1970 in UTC, and nanoseconds, which reach a second or more during a
leap second only. -/
structure Stamp where
  seconds : Int
  nanos : Nat
  deriving DecidableEq, Repr, Inhabited

inductive StampError
  | outOfRange
  | impossible
  | invalid
  | tooShort
  | tooLong
  deriving DecidableEq, Repr

def StampError.message : StampError → String
  | .outOfRange => "input is out of range"
  | .impossible => "no possible date and time matching input"
  | .invalid => "input contains invalid characters"
  | .tooShort => "premature end of input"
  | .tooLong => "trailing input"

namespace Stamp

def ofMicros (us : Int) : Stamp := ⟨us.fdiv 1000000, (us.fmod 1000000).toNat * 1000⟩

/-- Whole milliseconds from one instant to a later one, zero when it is not later. -/
def millisUntil (start stop : Stamp) : Nat :=
  let nanos : Int := (stop.seconds - start.seconds) * 1000000000 + ((stop.nanos : Int) - start.nanos)
  nanos.toNat / 1000000

def isBefore (a b : Stamp) : Bool := a.seconds < b.seconds || (a.seconds = b.seconds && a.nanos < b.nanos)

def padded (width n : Nat) : List Char :=
  let digits := Number.decimalDigits n
  List.replicate (width - digits.length) '0' ++ digits

/-- A year: four digits, with a sign outside the years 0 to 9999. -/
def yearText (year : Int) : List Char :=
  if 0 ≤ year ∧ year ≤ 9999 then padded 4 year.toNat
  else (if year < 0 then '-' else '+') :: padded 4 year.natAbs

/-- The fraction of a second: none, or three, six or nine digits, the fewest that are exact. -/
def fractionText (nanos : Nat) : List Char :=
  if nanos = 0 then []
  else if nanos % 1000000 = 0 then '.' :: padded 3 (nanos / 1000000)
  else if nanos % 1000 = 0 then '.' :: padded 6 (nanos / 1000)
  else '.' :: padded 9 nanos

def text (t : Stamp) : List Char :=
  let date := Date.ofDays (t.seconds.fdiv 86400)
  let ofDay := (t.seconds.fmod 86400).toNat
  let leap := 1000000000 ≤ t.nanos
  let second := ofDay % 60 + (if leap then 1 else 0)
  yearText date.year ++ '-' :: padded 2 date.month ++ '-' :: padded 2 date.day ++
    'T' :: padded 2 (ofDay / 3600) ++ ':' :: padded 2 (ofDay / 60 % 60) ++ ':' :: padded 2 second ++
    fractionText (if leap then t.nanos - 1000000000 else t.nanos) ++ ['Z']

def readDigits (width : Nat) (cs : List Char) : Except StampError (Nat × List Char) :=
  let run := (cs.take width).takeWhile Char.isDigit
  if cs.isEmpty then .error .tooShort
  else if run.isEmpty then .error .invalid
  else
    let n := Number.ofDigits 10 (run.filterMap Number.digitValue?)
    if Nat.pow 2 63 ≤ n then .error .outOfRange else .ok (n, cs.drop run.length)

def readPart (low high : Nat) (cs : List Char) : Except StampError (Nat × List Char) := do
  let (n, rest) ← readDigits 2 (Text.trimStart cs)
  if low ≤ n ∧ n ≤ high then return (n, rest) else throw .outOfRange

def readMark (mark : Char) (cs : List Char) : Except StampError (List Char) :=
  match Text.trimStart cs with
  | [] => .error .tooShort
  | c :: rest => if c = mark then .ok rest else .error .invalid

/-- A year: up to four digits, or any number of them after a sign. -/
def readYear (cs : List Char) : Except StampError (Int × List Char) := do
  let (year, rest) ←
    match Text.trimStart cs with
    -- With a sign, as many digits as there are belong to the year.
    | '-' :: rest => do
      let (n, rest) ← readDigits rest.length rest
      pure (-(n : Int), rest)
    | '+' :: rest => do
      let (n, rest) ← readDigits rest.length rest
      pure ((n : Int), rest)
    | cs => do
      let (n, rest) ← readDigits 4 cs
      pure ((n : Int), rest)
  if -(Nat.pow 2 31) ≤ year ∧ year < Nat.pow 2 31 then return (year, rest) else throw .outOfRange

def readFraction (cs : List Char) : Except StampError (Nat × List Char) :=
  match cs with
  | '.' :: rest => do
    let (n, after) ← readDigits 9 rest
    -- Digits beyond the ninth are passed over.
    return (n * Nat.pow 10 (9 - (rest.length - after.length)), after.dropWhile Char.isDigit)
  | cs => .ok (0, cs)

def readTwo (cs : List Char) : Except StampError (Nat × Nat × List Char) :=
  match cs with
  | a :: b :: rest =>
    match Number.digitValue? a, Number.digitValue? b with
    | some x, some y => .ok (x, y, rest)
    | _, _ => .error .invalid
  | cs => if Text.Utf8.size cs < 2 then .error .tooShort else .error .invalid

/-- An offset from UTC in seconds: `Z`, `UTC`, or a sign, two digits of hours and two of minutes. -/
def readOffset (cs : List Char) : Except StampError (Int × List Char) :=
  if (cs.take 3).map Char.toUpper = ['U', 'T', 'C'] then .ok (0, cs.drop 3)
  else
    match cs with
    | [] => .error .tooShort
    | sign :: rest =>
      if sign = 'Z' ∨ sign = 'z' then .ok (0, rest)
      else if sign = '+' ∨ sign = '-' ∨ sign = Char.ofNat 0x2212 then do
        let (h₁, h₂, rest) ← readTwo rest
        let rest := rest.dropWhile fun c ↦ c = ':' || Text.isBlank c
        let (m₁, m₂, rest) ← readTwo rest
        if 6 ≤ m₁ then throw .outOfRange
        let seconds : Int := ((h₁ * 10 + h₂) * 3600 + (m₁ * 10 + m₂) * 60 : Nat)
        return (if sign = '+' then seconds else -seconds, rest)
      else .error .invalid

/-- The first and the last year that instants reach. -/
def yearRange : Int × Int := (-262143, 262142)

def parse (cs : List Char) : Except StampError Stamp := do
  let (year, cs) ← readYear cs
  let cs ← readMark '-' cs
  let (month, cs) ← readPart 1 12 cs
  let cs ← readMark '-' cs
  let (day, cs) ← readPart 1 31 cs
  let cs ←
    match cs with
    | [] => throw .tooShort
    | c :: rest => if c = 't' ∨ c = 'T' ∨ c = ' ' then pure rest else throw .invalid
  let (hour, cs) ← readPart 0 23 cs
  let cs ← readMark ':' cs
  let (minute, cs) ← readPart 0 59 cs
  let cs ← readMark ':' cs
  let (second, cs) ← readPart 0 60 cs
  let (nanos, cs) ← readFraction cs
  let (offset, cs) ← readOffset (Text.trimStart cs)
  -- Everything is read before the parts are held against each other, so faults of form are told first.
  if !(Text.trimStart cs).isEmpty then throw .tooLong
  if year < yearRange.1 ∨ yearRange.2 < year ∨ daysInMonth year month < day then throw .outOfRange
  let seconds := Date.toDays ⟨year, month, day⟩ * 86400 +
    ((hour * 3600 + minute * 60 + min second 59 : Nat) : Int)
  if offset ≤ -86400 ∨ 86400 ≤ offset then throw .outOfRange
  let instant := seconds - offset
  let first := Date.toDays ⟨yearRange.1, 1, 1⟩ * 86400
  let afterLast := Date.toDays ⟨yearRange.2 + 1, 1, 1⟩ * 86400
  if instant < first ∨ afterLast ≤ instant then throw .impossible
  -- A leap second is the second before it with more than a second's worth of nanoseconds.
  return ⟨instant, nanos + (if second = 60 then 1000000000 else 0)⟩

end Stamp

end CodeRepair.Time

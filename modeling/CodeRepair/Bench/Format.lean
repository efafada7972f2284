import CodeRepair.Number.Digits
import CodeRepair.Text.Utf8

/-!
How the small tools of a shell write texts and numbers. These tools stand in for those of a system.
-/
namespace CodeRepair.Bench

def octal? (c : Char) : Option Nat := if '0' ≤ c ∧ c ≤ '7' then some (c.toNat - '0'.toNat) else none

def octalRun : Nat → Nat → List Char → Nat × List Char
  | n + 1, value, c :: cs =>
    match octal? c with
    | some d => octalRun n (8 * value + d) cs
    | none => (value, c :: cs)
  | _, value, cs => (value, cs)

def control? : Char → Option UInt8
  | 'a' => some 7
  | 'b' => some 8
  | 'f' => some 12
  | 'n' => some 10
  | 'r' => some 13
  | 't' => some 9
  | 'v' => some 11
  | '\\' => some 92
  | _ => none

/-- The bytes of a text with backslashes, and whether it was broken off. Octal numbers begin with a zero if
`zeroFirst`, and only then can a text be broken off. -/
def unescape (zeroFirst : Bool) : Nat → List Char → List UInt8 × Bool
  | 0, _ => ([], false)
  | _, [] => ([], false)
  | n + 1, '\\' :: c :: cs =>
    let onward (bytes : List UInt8) (rest : List Char) : List UInt8 × Bool :=
      let (more, ended) := unescape zeroFirst n rest
      (bytes ++ more, ended)
    if zeroFirst ∧ c = 'c' then ([], true)
    else if zeroFirst ∧ c = '0' then
      let (value, rest) := octalRun 3 0 cs
      onward [UInt8.ofNat value] rest
    else if !zeroFirst ∧ (octal? c).isSome then
      let (value, rest) := octalRun 3 0 (c :: cs)
      onward [UInt8.ofNat value] rest
    else
      match control? c with
      | some b => onward [b] cs
      | none => onward (92 :: Text.Utf8.encodeChar c) cs
  | n + 1, c :: cs =>
    let (more, ended) := unescape zeroFirst n cs
    (Text.Utf8.encodeChar c ++ more, ended)

/-- The number that a text begins with, in the notation of its first digits, and what follows. -/
def leadingInt (cs : List Char) : Int × List Char :=
  let cs := cs.dropWhile (· = ' ')
  let (negative, cs) :=
    match cs with
    | '-' :: rest => (true, rest)
    | '+' :: rest => (false, rest)
    | _ => (false, cs)
  let digits (base : Nat) (cs : List Char) : Nat × List Char :=
    let valid (c : Char) : Option Nat :=
      let d := if c.isDigit then c.toNat - '0'.toNat else if c.isAlpha then c.toLower.toNat - 'a'.toNat + 10 else 99
      if d < base then some d else none
    let run := cs.takeWhile fun c ↦ (valid c).isSome
    (run.foldl (fun v c ↦ base * v + (valid c).getD 0) 0, cs.drop run.length)
  let (value, rest) :=
    match cs with
    | '0' :: 'x' :: more | '0' :: 'X' :: more => digits 16 more
    | '0' :: more => digits 8 ('0' :: more)
    | _ => digits 10 cs
  (if negative then -(value : Int) else value, rest)

def plainInt? (s : String) : Option Int :=
  let cs := s.toList
  let (negative, digits) :=
    match cs with
    | '-' :: rest => (true, rest)
    | '+' :: rest => (false, rest)
    | _ => (false, cs)
  if digits.isEmpty ∨ !digits.all Char.isDigit then none
  else (Number.decimal? digits).map fun n ↦ if negative then -(n : Int) else n

def thousandths? (s : String) : Option Nat :=
  let whole := s.toList.takeWhile Char.isDigit
  let rest := s.toList.drop whole.length
  let fraction := match rest with
    | '.' :: more => more
    | _ => []
  let shape := rest.isEmpty || (rest.head? = some '.' && fraction.all Char.isDigit)
  if !shape ∨ (whole.isEmpty ∧ fraction.isEmpty) then none
  else
    let digits := (fraction ++ ['0', '0', '0']).take 3
    Number.decimal? (whole ++ digits)

def digitsOf (base n : Nat) (upper : Bool) : List Char :=
  let ds := Nat.toDigits base n
  if upper then ds.map Char.toUpper else ds

structure Slot where
  left : Bool
  zero : Bool
  plus : Bool
  blank : Bool
  mark : Bool
  width : Nat
  precision : Option Nat
  deriving Repr, Inhabited

namespace Slot

def fit (s : Slot) (bytes : List UInt8) : List UInt8 :=
  let gap := List.replicate (s.width - bytes.length) (32 : UInt8)
  if s.left then bytes ++ gap else gap ++ bytes

def fitNumber (s : Slot) (sign digits : List Char) : List UInt8 :=
  let digits := List.replicate (s.precision.getD 0 - digits.length) '0' ++ digits
  let room := s.width - sign.length
  let digits :=
    if s.zero ∧ !s.left ∧ s.precision.isNone then List.replicate (room - digits.length) '0' ++ digits else digits
  s.fit (Text.Utf8.encode (sign ++ digits))

def fitInt (s : Slot) (n : Int) : List UInt8 :=
  let sign := if n < 0 then ['-'] else if s.plus then ['+'] else if s.blank then [' '] else []
  s.fitNumber sign (digitsOf 10 n.natAbs false)

def fitNat (s : Slot) (base : Nat) (upper : Bool) (n : Int) : List UInt8 :=
  let word := (n % Nat.pow 2 64).toNat
  let sign := if s.mark ∧ base = 16 then (if upper then ['0', 'X'] else ['0', 'x']) else []
  s.fitNumber sign (digitsOf base word upper)

/-- A decimal number with as many digits after the point as the place has, six if it does not say. Half a unit goes to
the even neighbour. -/
def fitDecimal (s : Slot) (text : List Char) : List UInt8 :=
  let (negative, cs) :=
    match text with
    | '-' :: rest => (true, rest)
    | _ => (false, text)
  let whole := cs.takeWhile Char.isDigit
  let fraction := ((cs.drop whole.length).drop 1).takeWhile Char.isDigit
  let places := s.precision.getD 6
  let value := (Number.decimal? (whole ++ fraction)).getD 0
  let scaled := value * Nat.pow 10 places
  let unit := Nat.pow 10 fraction.length
  let up := decide (unit < 2 * (scaled % unit) ∨ (2 * (scaled % unit) = unit ∧ scaled / unit % 2 = 1))
  let rounded := scaled / unit + (if up then 1 else 0)
  let digits := digitsOf 10 rounded false
  let digits := List.replicate (places + 1 - digits.length) '0' ++ digits
  let point := if places = 0 then [] else '.' :: digits.drop (digits.length - places)
  let sign := if negative then ['-'] else if s.plus then ['+'] else []
  { s with precision := none }.fitNumber sign (digits.take (digits.length - places) ++ point)

/-- A place after its percent sign, its letter, and what follows. A star takes its number from the arguments. -/
def read (cs : List Char) (args : List String) : Option (Slot × Char × List Char × List String) :=
  let flags := cs.takeWhile ("-0+ #".toList.contains ·)
  let cs := cs.drop flags.length
  let number (cs : List Char) (args : List String) : Option Nat × List Char × List String :=
    match cs with
    | '*' :: rest => (some (((args.head?.bind plainInt?).getD 0).toNat), rest, args.drop 1)
    | _ =>
      let digits := cs.takeWhile Char.isDigit
      (Number.decimal? digits, cs.drop digits.length, args)
  let (width, cs, args) := number cs args
  let (precision, cs, args) :=
    match cs with
    | '.' :: rest =>
      let (n, rest, args) := number rest args
      (some (n.getD 0), rest, args)
    | _ => (none, cs, args)
  match cs with
  | c :: rest =>
    let has (c : Char) : Bool := flags.contains c
    some (⟨has '-', has '0', has '+', has ' ', has '#', width.getD 0, precision⟩, c, rest, args)
  | [] => none

end Slot

structure Printed where
  bytes : List UInt8
  args : List String
  faults : List String
  ended : Bool
  deriving Repr, Inhabited

def printOnce : Nat → List Char → Printed → Printed
  | 0, _, p => p
  | _, [], p => p
  | n + 1, '%' :: '%' :: cs, p => printOnce n cs { p with bytes := p.bytes ++ [37] }
  | n + 1, '%' :: cs, p =>
    match Slot.read cs p.args with
    | none => { p with faults := p.faults ++ ["missing format character"], ended := true }
    | some (slot, letter, rest, args) =>
      let arg := args.head?
      let text := Text.Utf8.encode (arg.getD "").toList
      let put (p : Printed) (bytes : List UInt8) : Printed := { p with bytes := p.bytes ++ bytes, args := args.drop 1 }
      let number (f : Int → List UInt8) : Printed :=
        match (arg.getD "").toList with
        | '"' :: c :: _ | '\x27' :: c :: _ => put p (f c.toNat)
        | cs =>
          let (value, after) := leadingInt cs
          let p := put p (f value)
          if arg.isNone ∨ (after.isEmpty ∧ !cs.isEmpty) then p
          else
            let fault := if after.length = cs.length then "expected numeric value" else "not completely converted"
            { p with faults := p.faults ++ [arg.getD "" ++ ": " ++ fault] }
      match letter with
      | 's' => printOnce n rest (put p (slot.fit (match slot.precision with | some k => text.take k | none => text)))
      | 'b' =>
        let (bytes, ended) := unescape true (text.length + 1) (arg.getD "").toList
        let p := put p (slot.fit bytes)
        if ended then { p with ended := true } else printOnce n rest p
      | 'c' => printOnce n rest (put p (slot.fit (text.take 1)))
      | 'd' | 'i' => printOnce n rest (number slot.fitInt)
      | 'f' => printOnce n rest (put p (slot.fitDecimal (arg.getD "").toList))
      | 'u' => printOnce n rest (number (slot.fitNat 10 false))
      | 'o' => printOnce n rest (number (slot.fitNat 8 false))
      | 'x' => printOnce n rest (number (slot.fitNat 16 false))
      | 'X' => printOnce n rest (number (slot.fitNat 16 true))
      | c => { p with faults := p.faults ++ ["%" ++ String.singleton c ++ ": invalid directive"], ended := true }
  | n + 1, cs, p =>
    let run := cs.takeWhile (· ≠ '%')
    let (bytes, _) := unescape false (run.length + 1) run
    printOnce n (cs.drop run.length) { p with bytes := p.bytes ++ bytes }

/-- A format is gone through until all arguments are used. -/
def printAll : Nat → List Char → Printed → Printed
  | 0, _, p => p
  | n + 1, format, p =>
    let after := printOnce (format.length + 1) format p
    if after.ended ∨ after.args.isEmpty ∨ after.args.length = p.args.length then after else printAll n format after

def ranges? (s : String) : Option (List (Nat × Nat)) :=
  (s.splitOn ",").mapM fun part ↦
    let number (s : String) (default : Nat) : Option Nat := if s.isEmpty then some default else s.toNat?
    match part.splitOn "-" with
    | [a] => a.toNat?.map fun n ↦ (n, n)
    | [a, b] => do return (← number a 1, ← number b (Nat.pow 2 32))
    | _ => none

def inRanges (ranges : List (Nat × Nat)) (n : Nat) : Bool := ranges.any fun (a, b) ↦ a ≤ n && n ≤ b

def byteSet : Nat → List UInt8 → List UInt8
  | 0, _ => []
  | n + 1, a :: 45 :: b :: rest =>
    (List.range (b.toNat + 1 - a.toNat)).map (fun i ↦ UInt8.ofNat (a.toNat + i)) ++ byteSet n rest
  | n + 1, a :: rest => a :: byteSet n rest
  | _, [] => []

def namedSet? : String → Option (List Char)
  | "[:upper:]" => some "A-Z".toList
  | "[:lower:]" => some "a-z".toList
  | "[:digit:]" => some "0-9".toList
  | "[:alpha:]" => some "A-Za-z".toList
  | "[:alnum:]" => some "0-9A-Za-z".toList
  | "[:space:]" => some "\t-\r ".toList
  | "[:punct:]" => some "!-/:-@[-\x60\x7b-~".toList
  | _ => none

def bytesOfSet (s : String) : List UInt8 :=
  let bytes :=
    match namedSet? s with
    | some cs => Text.Utf8.encode cs
    | none => (unescape false (s.length + 1) s.toList).1
  byteSet (bytes.length + 1) bytes

end CodeRepair.Bench

import CodeRepair.Number.Digits

/-!
Binary floating point in exact arithmetic. A finite number is `mantissa · 2 ^ exponent` with a sign; its
shortest decimal is the one with the fewest digits among those that no other number of the format is nearer to.
-/
namespace CodeRepair.Number

/-- A finite number of a binary format. `lowest` says that the number below is only half a step away. -/
structure Binary where
  negative : Bool
  mantissa : Nat
  exponent : Int
  lowest : Bool
  deriving DecidableEq, Repr

/-- A decimal number: `digits · 10 ^ exponent`. -/
structure Decimal where
  negative : Bool
  digits : Nat
  exponent : Int
  deriving DecidableEq, Repr

/-- The number with the given fields of a format, none for infinities and NaN. -/
def Binary.ofFields? (precision : Nat) (bias : Int) (topField : Nat) (negative : Bool) (field fraction : Nat) :
    Option Binary :=
  if field = topField then none
  else if field = 0 then some ⟨negative, fraction, 1 - bias - precision, false⟩
  else some ⟨negative, Nat.pow 2 precision + fraction, field - bias - precision, fraction = 0 && field > 1⟩

def Binary.ofFloat? (x : Float) : Option Binary :=
  let bits := x.toBits.toNat
  Binary.ofFields? 52 1023 2047 (bits / Nat.pow 2 63 = 1) (bits / Nat.pow 2 52 % Nat.pow 2 11) (bits % Nat.pow 2 52)

def Binary.ofFloat32? (x : Float32) : Option Binary :=
  let bits := x.toBits.toNat
  Binary.ofFields? 23 127 255 (bits / Nat.pow 2 31 = 1) (bits / Nat.pow 2 23 % Nat.pow 2 8) (bits % Nat.pow 2 23)

/-- The multiple of `10 ^ k` nearest to the number among its two neighbours on that grid, when one of them
reads back as the number: it lies between the midpoints to the numbers next to it, the midpoints included
when the mantissa is even. -/
def Binary.onGrid? (b : Binary) (k : Int) : Option Nat :=
  -- all lengths are counted in quarters of the last place, over the common denominator `step`
  let scale := Nat.pow 2 (b.exponent - 2).toNat * Nat.pow 10 (-k).toNat
  let step := Nat.pow 2 (2 - b.exponent).toNat * Nat.pow 10 k.toNat
  let value := 4 * b.mantissa * scale
  let low := (4 * b.mantissa - (if b.lowest then 1 else 2)) * scale
  let high := (4 * b.mantissa + 2) * scale
  let inside (d : Nat) : Bool :=
    if b.mantissa % 2 = 0 then low ≤ d * step && d * step ≤ high else low < d * step && d * step < high
  let below := value / step
  let above := below + 1
  match inside below && below ≠ 0, inside above with
  | true, true =>
    if value - below * step < above * step - value then some below
    else if above * step - value < value - below * step then some above
    else if below % 2 = 0 then some below else some above
  | true, false => some below
  | false, true => some above
  | false, false => none

/-- The first hit on the grids `10 ^ k`, `10 ^ (k - 1)`, …, of which `fuel` are tried. -/
def Binary.searchGrids (b : Binary) (k : Int) : Nat → Decimal
  | 0 => ⟨b.negative, 0, 0⟩
  | fuel + 1 =>
    match b.onGrid? k with
    | some d => ⟨b.negative, d, k⟩
    | none => b.searchGrids (k - 1) fuel

def Binary.shortest (b : Binary) : Decimal :=
  if b.mantissa = 0 then ⟨b.negative, 0, 0⟩
  else
    -- the fraction is a little above the logarithm of two; one more makes up for the rounding
    let magnitude := (b.exponent + (Nat.log2 b.mantissa : Int) + 1) * 30103 / 100000 + 1
    b.searchGrids magnitude 25

/-- How a decimal number is laid out: positional for the powers of ten of its first digit from `lowPower` to
`highPower`, with an exponent otherwise; `pointZero` keeps `.0` on whole numbers. -/
structure Layout where
  lowPower : Int
  highPower : Int
  pointZero : Bool

/-- Numbers in messages: an exponent below `10 ^ -5` and from `10 ^ 16` on. -/
def Layout.message : Layout := ⟨-5, 15, true⟩

/-- Numbers in running text: never an exponent, and no `.0` on whole numbers. -/
def Layout.plain : Layout := ⟨-400, 400, false⟩

/-- A decimal number as text. An exponent has its sign. -/
def Decimal.format (layout : Layout) (d : Decimal) : List Char :=
  let digits := decimalDigits d.digits
  let power : Int := d.exponent + digits.length - 1
  let sign : List Char := if d.negative then ['-'] else []
  if d.digits = 0 then sign ++ '0' :: (if layout.pointZero then ['.', '0'] else [])
  else if layout.lowPower ≤ power ∧ power ≤ layout.highPower then
    if 0 ≤ d.exponent then
      sign ++ digits ++ List.replicate d.exponent.toNat '0' ++ (if layout.pointZero then ['.', '0'] else [])
    else if 0 ≤ power then
      let whole := (power + 1).toNat
      sign ++ digits.take whole ++ '.' :: digits.drop whole
    else
      sign ++ '0' :: '.' :: List.replicate (-power - 1).toNat '0' ++ digits
  else
    let rest := digits.drop 1
    sign ++ digits.take 1 ++ (if rest.isEmpty then [] else '.' :: rest) ++
      'e' :: (if power < 0 then '-' else '+') :: decimalDigits power.natAbs

def formatFloat (layout : Layout) (x : Float) : String :=
  match Binary.ofFloat? x with
  | some b => String.ofList (b.shortest.format layout)
  | none => if x.isNaN then "NaN" else if x < 0 then "-inf" else "inf"

/-- A number with two places, a half going to the even neighbour. -/
def Binary.places2 (b : Binary) : List Char :=
  let num := b.mantissa * 100 * Nat.pow 2 b.exponent.toNat
  let den := Nat.pow 2 (-b.exponent).toNat
  let q := num / den
  let r := num % den
  let hundredths := if 2 * r < den then q else if den < 2 * r then q + 1 else q + q % 2
  let places := decimalDigits (hundredths % 100)
  (if b.negative then ['-'] else []) ++ decimalDigits (hundredths / 100) ++
    '.' :: (if places.length < 2 then '0' :: places else places)

def formatPlaces2 (x : Float) : String :=
  match Binary.ofFloat? x with
  | some b => String.ofList b.places2
  | none => if x.isNaN then "NaN" else if x < 0 then "-inf" else "inf"

def formatFloat32Places2 (x : Float32) : String :=
  match Binary.ofFloat32? x with
  | some b => String.ofList b.places2
  | none => if x.isNaN then "NaN" else if x < 0 then "-inf" else "inf"

end CodeRepair.Number

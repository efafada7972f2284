/-!
Whole numbers in a base, digit by digit.
-/
namespace CodeRepair.Number

/-- The digits of a number in base `base + 2`, the lowest first, none for zero. -/
def digitsFrom (base : Nat) (n : Nat) : List Nat :=
  if h : n = 0 then [] else
    n % (base + 2) :: digitsFrom base (n / (base + 2))
termination_by n
decreasing_by exact Nat.div_lt_self (Nat.pos_of_ne_zero h) (by omega)

def digitChar (d : Nat) : Char := if d < 10 then Char.ofNat (0x30 + d) else Char.ofNat (0x57 + d)

def hexDigits (n : Nat) : List Char :=
  if n = 0 then ['0'] else ((digitsFrom 14 n).map digitChar).reverse

/-- The last `width` hexadecimal digits, with zeros in front where there are fewer. -/
def paddedHex (width n : Nat) : List Char :=
  let digits := hexDigits (n % Nat.pow 16 width)
  List.replicate (width - digits.length) '0' ++ digits

def decimalDigits (n : Nat) : List Char :=
  if n = 0 then ['0'] else ((digitsFrom 8 n).map digitChar).reverse

def digitValue? (c : Char) : Option Nat :=
  if '0' ≤ c ∧ c ≤ '9' then some (c.toNat - 0x30) else none

def hexValue? (c : Char) : Option Nat :=
  if '0' ≤ c ∧ c ≤ '9' then some (c.toNat - 0x30)
  else if 'a' ≤ c ∧ c ≤ 'f' then some (c.toNat - 0x57)
  else if 'A' ≤ c ∧ c ≤ 'F' then some (c.toNat - 0x37)
  else none

def ofDigits (base : Nat) (digits : List Nat) : Nat := digits.foldl (fun n d ↦ n * base + d) 0

def decimal? (cs : List Char) : Option Nat :=
  if cs.isEmpty then none else (cs.mapM digitValue?).map (ofDigits 10)

end CodeRepair.Number

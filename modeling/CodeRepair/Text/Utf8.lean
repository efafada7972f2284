/-!
Text as bytes. Decoding never fails: a byte sequence that starts no character, taken as long as some
character could still have begun with it, is read as one replacement character.
-/
namespace CodeRepair.Text.Utf8

def encodeChar (c : Char) : List UInt8 :=
  let n := c.toNat
  let tail (shift : Nat) : UInt8 := UInt8.ofNat (0x80 + n / Nat.pow 2 shift % 0x40)
  if n < 0x80 then [UInt8.ofNat n]
  else if n < 0x800 then [UInt8.ofNat (0xC0 + n / 0x40), tail 0]
  else if n < 0x10000 then [UInt8.ofNat (0xE0 + n / 0x1000), tail 6, tail 0]
  else [UInt8.ofNat (0xF0 + n / 0x40000), tail 12, tail 6, tail 0]

def encode (cs : List Char) : List UInt8 := cs.flatMap encodeChar

def width (c : Char) : Nat :=
  if c.toNat < 0x80 then 1 else if c.toNat < 0x800 then 2 else if c.toNat < 0x10000 then 3 else 4

def size : List Char → Nat
  | [] => 0
  | c :: cs => width c + size cs

/-- Stands for bytes that are no character. -/
def replacement : Char := Char.ofNat 0xFFFD

/-- Where a reader stands between two bytes. In `owing`, the character begun has the value `value` so far and
lacks `owed` bytes, the next of which must lie between `low` and `high`. -/
inductive State
  | between
  | owing (value owed : Nat) (low high : Nat)
  deriving DecidableEq, Repr

def start (b : UInt8) : List Char × State :=
  let n := b.toNat
  if n < 0x80 then ([Char.ofNat n], .between)
  -- C0 and C1 could only begin a longer form of an ASCII character.
  else if n < 0xC2 then ([replacement], .between)
  else if n < 0xE0 then ([], .owing (n - 0xC0) 1 0x80 0xBF)
  -- The narrower bounds keep out overlong forms, surrogates and what lies beyond the last code point.
  else if n = 0xE0 then ([], .owing 0 2 0xA0 0xBF)
  else if n = 0xED then ([], .owing 0xD 2 0x80 0x9F)
  else if n < 0xF0 then ([], .owing (n - 0xE0) 2 0x80 0xBF)
  else if n = 0xF0 then ([], .owing 0 3 0x90 0xBF)
  else if n < 0xF4 then ([], .owing (n - 0xF0) 3 0x80 0xBF)
  else if n = 0xF4 then ([], .owing 4 3 0x80 0x8F)
  else ([replacement], .between)

/-- One byte: the characters it settles and the state after it. -/
def step : State → UInt8 → List Char × State
  | .between, b => start b
  | .owing value owed low high, b =>
    if low ≤ b.toNat ∧ b.toNat ≤ high then
      let value' := value * 0x40 + (b.toNat - 0x80)
      if owed ≤ 1 then ([Char.ofNat value'], .between) else ([], .owing value' (owed - 1) 0x80 0xBF)
    else
      -- The byte that does not continue the old character may start a new one.
      let (cs, s) := start b
      (replacement :: cs, s)

def flush : State → List Char
  | .between => []
  | .owing .. => [replacement]

def decodeFrom (s : State) : List UInt8 → List Char
  | [] => flush s
  | b :: bs => (step s b).1 ++ decodeFrom (step s b).2 bs

def decode (bs : List UInt8) : List Char := decodeFrom .between bs

@[simp] theorem decode_nil : decode [] = [] := rfl

theorem decodeFrom_cons (s : State) (b : UInt8) (bs : List UInt8) :
    decodeFrom s (b :: bs) = (step s b).1 ++ decodeFrom (step s b).2 bs := rfl

end CodeRepair.Text.Utf8

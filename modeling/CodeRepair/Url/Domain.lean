import CodeRepair.Text.Direction
import CodeRepair.Text.Joining
import CodeRepair.Url.Mapping
import CodeRepair.Url.Percent

/-!
Domain names as they may stand in an address: any script, upper and lower case alike, and labels that spell
other scripts with ASCII letters after `xn--`.
-/
namespace CodeRepair.Url

/-- The weight below which a digit ends a number, for the digit at some place. -/
def labelThreshold (place bias : Nat) : Nat :=
  if place ≤ bias then 1 else if bias + 26 ≤ place then 26 else place - bias

/-- Divides by 35 as long as the value is above 455, and counts the divisions by 36s. -/
def labelScale (delta place : Nat) : Nat × Nat :=
  if 455 < delta then labelScale (delta / 35) (place + 36) else (delta, place)
termination_by delta
decreasing_by exact Nat.div_lt_self (by omega) (by omega)

/-- The bias for the number that follows one of size `delta`, after `count` characters. -/
def labelBias (delta count : Nat) (first : Bool) : Nat :=
  let d := if first then delta / 700 else delta / 2
  let (d, place) := labelScale (d + d / count) 0
  place + 36 * d / (d + 38)

def labelDigit? (c : Char) : Option Nat :=
  if 'a' ≤ c ∧ c ≤ 'z' then some (c.toNat - 0x61)
  else if '0' ≤ c ∧ c ≤ '9' then some (c.toNat - 0x30 + 26)
  else none

/-- Where the reader of a label stands: in a number of value `value` whose next digit, at `place`, counts
`weight`; `start` is what the value was when the number began. -/
structure LabelState where
  code : Nat
  value : Nat
  start : Nat
  weight : Nat
  place : Nat
  bias : Nat
  done : List Char

/-- The label that digits spell. Its numbers have 32 bits at most. -/
def decodeDigits (s : LabelState) : List Char → Option (List Char)
  | [] => if s.place = 36 then some s.done else none
  | c :: cs => do
    let d ← labelDigit? c
    let value := s.value + d * s.weight
    let t := labelThreshold s.place s.bias
    if Nat.pow 2 32 ≤ value then none
    else if d < t then
      -- The number is complete: it counts places of insertion, over all code points from the present one on.
      let count := s.done.length + 1
      let code := s.code + value / count
      let at' := value % count
      if code < 0xD800 ∨ 0xDFFF < code ∧ code < 0x110000 then
        decodeDigits
          { code, value := at' + 1, start := at' + 1, weight := 1, place := 36
            bias := labelBias (value - s.start) count (s.start = 0)
            done := s.done.insertIdx at' (Char.ofNat code) } cs
      else none
    else if Nat.pow 2 32 ≤ s.weight * (36 - t) then none
    else
      decodeDigits { s with value, weight := s.weight * (36 - t), place := s.place + 36 } cs

/-- The label that is spelled after `xn--`: the ASCII characters come first, up to the last hyphen. -/
def decodeLabel (cs : List Char) : Option (List Char) :=
  match Text.beforeLast? ['-'] cs with
  | some plain =>
    if plain.isEmpty then none
    else decodeDigits ⟨0x80, 0, 0, 1, 36, 72, plain⟩ (cs.drop (plain.length + 1))
  | none => decodeDigits ⟨0x80, 0, 0, 1, 36, 72, []⟩ cs

def isBarred (c : Char) : Bool :=
  c.toNat ≤ 0x20 || c = '\x7f' || "%#/:<>?@[\\]^|".toList.contains c

/-- The most characters that a label of another script can have, and that such a label can be spelled with. -/
def maxLabelLengths : Nat × Nat := (1000, 2000)

def isForeignLabel (label : List Char) : Bool :=
  label.length ≤ maxLabelLengths.1 && !label.head?.any Text.isMark && Text.joinersFit [] label

/-- The label that a mapped one spells, unless it may not stand. One that spells another script must do so in the one
proper way. -/
def label? (cs : List Char) : Option (List Char) :=
  match Text.dropPattern? ['x', 'n', '-', '-'] cs with
  | some spelled => do
    let label ← decodeLabel spelled
    if spelled.length ≤ maxLabelLengths.2 ∧ label.any (fun c ↦ 0x80 ≤ c.toNat)
        ∧ label.all (fun c ↦ domainChar? c = some [c]) ∧ Text.compose label = label ∧ isForeignLabel label then
      some label
    else none
  | none => if cs.all (fun c ↦ c.toNat < 0x80) ∨ isForeignLabel cs then some cs else none

def domain? (cs : List Char) : Option (List Char) := do
  let mapped ← (Text.Utf8.decode (percentDecode cs)).mapM domainChar?
  let domain := Text.compose mapped.flatten
  -- Composing can bring forth characters that were not in the text, so they are looked for only now.
  if domain.any isBarred then none
  let labels ← (Text.splitAt (· = '.') domain).mapM label?
  if labels.any (·.any fun c ↦ (Text.direction c).turns) ∧ !labels.all Text.keepsDirection then none
  return domain

end CodeRepair.Url

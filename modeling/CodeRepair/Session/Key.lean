import CodeRepair.Error
import CodeRepair.Number.Digits
import CodeRepair.Text.Blank
import CodeRepair.Text.LowerCase
import CodeRepair.Text.Search
import CodeRepair.Text.Utf8

/-!
Session keys. Every spelling of a key counts as its lower case without blanks around it.
-/
namespace CodeRepair.SessionKey

def maxBytes : Nat := 128

def isControl (c : Char) : Bool := c.toNat < 0x20 || (0x7F ≤ c.toNat && c.toNat ≤ 0x9F)

def normalize (text : String) : Except KeyError String :=
  let key := Text.lower (Text.trim text.toList)
  if key.isEmpty then .error .empty
  -- The bound is in bytes of the key, not of its spelling: lowering can change how many there are.
  else if maxBytes < Text.Utf8.size key then .error .tooLong
  else if '/' ∈ key ∨ '\\' ∈ key ∨ Text.occurs ['.', '.'] key ∨ key.any isControl then .error .badCharacters
  else .ok (String.ofList key)

/-- The key made from 128 bits: the lower-case hexadecimal digits after `retry_`. -/
def ofBits (n : Nat) : String := String.ofList ("retry_".toList ++ Number.paddedHex 32 n)

end CodeRepair.SessionKey

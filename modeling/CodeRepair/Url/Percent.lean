import CodeRepair.Number.Digits
import CodeRepair.Text.Utf8

/-!
Bytes written in a text by means of percent signs.
-/
namespace CodeRepair.Url

/-- The bytes of a text in which `%` and two hexadecimal digits stand for the byte of that value. A percent sign
without two such digits stands for itself. -/
def percentDecode : List Char → List UInt8
  | [] => []
  | '%' :: high :: low :: rest =>
    match Number.hexValue? high, Number.hexValue? low with
    | some h, some l => UInt8.ofNat (16 * h + l) :: percentDecode rest
    | _, _ => 0x25 :: percentDecode (high :: low :: rest)
  | c :: rest => Text.Utf8.encodeChar c ++ percentDecode rest

def percentByte (b : UInt8) : List Char :=
  let digit (d : Nat) : Char := (Number.digitChar d).toUpper
  ['%', digit (b.toNat / 16), digit (b.toNat % 16)]

def percentEncode (keep : Char → Bool) (cs : List Char) : List Char :=
  cs.flatMap fun c ↦ if keep c then [c] else (Text.Utf8.encodeChar c).flatMap percentByte

end CodeRepair.Url

import CodeRepair.Text.Utf8

/-!
What is kept of an output stream: its first bytes, up to a bound, as text. When something was dropped, a character
that the bound cut in two is dropped as well, and a mark is put at the end.
-/
namespace CodeRepair

namespace Text.Utf8

def fits : State → UInt8 → Bool
  | .between, b => b.toNat < 0x80 || 0xC2 ≤ b.toNat && b.toNat < 0xF5
  | .owing _ _ low high, b => low ≤ b.toNat && b.toNat ≤ high

/-- The length of the bytes without an unfinished character at their end. `sure` counts the bytes of the finished
characters, `pending` those after them. Where some byte does not fit, nothing is left out. -/
def wholeFrom (s : State) (sure pending : Nat) : List UInt8 → Nat
  | [] => sure
  | b :: bs =>
    if fits s b then
      match (step s b).2 with
      | .between => wholeFrom .between (sure + pending + 1) 0 bs
      | s' => wholeFrom s' sure (pending + 1) bs
    -- Such bytes are no text anyway, and all of them are kept to be decoded as they are.
    else sure + pending + 1 + bs.length

def wholeLength (bytes : List UInt8) : Nat := wholeFrom .between 0 0 bytes

end Text.Utf8

structure Captured where
  kept : List UInt8
  truncated : Bool
  deriving DecidableEq, Repr

namespace Captured

def empty : Captured := ⟨[], false⟩

/-- One more read of at most `max` bytes in all. -/
def read (max : Nat) (c : Captured) (chunk : List UInt8) : Captured :=
  let room := max - c.kept.length
  -- Reads beyond the bound are taken as well, so that the program never waits for a reader.
  ⟨c.kept ++ chunk.take room, c.truncated || room < chunk.length⟩

/-- Put after a text of which something was dropped. -/
def mark : String := "\n... [output truncated]"

def text (c : Captured) : String :=
  if c.truncated then String.ofList (Text.Utf8.decode (c.kept.take (Text.Utf8.wholeLength c.kept))) ++ mark
  else String.ofList (Text.Utf8.decode c.kept)

end Captured

/-- The text kept of a stream that comes in these reads. -/
def capture (max : Nat) (chunks : List (List UInt8)) : String := (chunks.foldl (Captured.read max) .empty).text

end CodeRepair

import CodeRepair.Number.Digits
import CodeRepair.Text.Search

/-!
Tables of what characters become.
-/
namespace CodeRepair.Text

/-- What consecutive characters become, from `first` on, in words: `61+300` is a text of two characters, by their
code points in base sixteen, and `61-7A` stands for single characters in a row. -/
structure Block where
  first : Nat
  words : String

def codePoint (cs : List Char) : Nat := Number.ofDigits 16 (cs.filterMap Number.hexValue?)

def readWord (word : List Char) : List (List Char) :=
  match splitAt (· = '-') word with
  | [low, high] =>
    (List.range (codePoint high + 1 - codePoint low)).map fun i ↦ [Char.ofNat (codePoint low + i)]
  | _ => [(splitAt (· = '+') word).map fun part ↦ Char.ofNat (codePoint part)]

/-- What characters become: the first of some consecutive ones, and a text for each. -/
structure Table where
  rows : List (Nat × Array (List Char))

namespace Table

def ofBlocks (blocks : List Block) : Table :=
  ⟨blocks.map fun b ↦ (b.first, ((splitAt (· = ' ') b.words.toList).flatMap readWord).toArray)⟩

def get? (t : Table) (c : Char) : Option (List Char) :=
  t.rows.findSome? fun (first, texts) ↦ if first ≤ c.toNat then texts[c.toNat - first]? else none

def source? (t : Table) (text : List Char) : Option Char :=
  t.rows.findSome? fun (first, texts) ↦ (texts.findIdx? (· = text)).map fun i ↦ Char.ofNat (first + i)

end Table

end CodeRepair.Text

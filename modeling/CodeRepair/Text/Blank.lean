/-!
White space and trimming. White space is the Unicode property of that name, so a no-break space and the
line separators count, and the zero-width space does not.
-/
namespace CodeRepair.Text

/-- A character of the property White_Space. -/
def isBlank (c : Char) : Bool :=
  let n := c.toNat
  if n < 0x80 then n = 0x20 || (0x09 ≤ n && n ≤ 0x0D)
  else n = 0x85 || n = 0xA0 || n = 0x1680 || (0x2000 ≤ n && n ≤ 0x200A) || n = 0x2028 || n = 0x2029
    || n = 0x202F || n = 0x205F || n = 0x3000

def dropEndWhile {α : Type} (p : α → Bool) (cs : List α) : List α :=
  (cs.reverse.dropWhile p).reverse

def trimStart (cs : List Char) : List Char := cs.dropWhile isBlank

def trimEnd (cs : List Char) : List Char := dropEndWhile isBlank cs

def trim (cs : List Char) : List Char := trimEnd (trimStart cs)

def isAllBlank (cs : List Char) : Bool := cs.all isBlank

def trimmed (s : String) : String := String.ofList (trim s.toList)

def blank (s : String) : Bool := isAllBlank s.toList

end CodeRepair.Text

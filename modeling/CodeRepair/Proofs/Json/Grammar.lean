import CodeRepair.Proofs.Json.Spacing

/-!
The grammar of JSON texts, apart from any reader: every form of a string, a number, an array and an object, with white
space wherever it may stand. An object of strings is written as a text of the grammar.
-/
namespace CodeRepair.Json

variable {t w ds fraction exponent : List Char}

section Lexemes

/-- One character of a string: as itself, by a letter after a backslash, or by the number of a code unit. -/
inductive StringPart : List Char → Prop
  | plain {x : Char} (hquote : x ≠ '"') (hslash : x ≠ '\\') (hcontrol : 0x20 ≤ x.toNat) : StringPart [x]
  | letter {x : Char} (hx : x ∈ ['"', '\\', '/', 'b', 'f', 'n', 'r', 't']) : StringPart ['\\', x]
  | unit {ds : List Char} (hcount : ds.length = 4) (hds : ∀ x ∈ ds, (Number.hexValue? x).isSome = true) :
      StringPart ('\\' :: 'u' :: ds)

inductive StringBody : List Char → Prop
  | nil : StringBody []
  | cons {p t : List Char} (h : StringPart p) (h' : StringBody t) : StringBody (p ++ t)

inductive StringText : List Char → Prop
  | quoted {t : List Char} (h : StringBody t) : StringText ('"' :: (t ++ ['"']))

def Digits (ds : List Char) : Prop := ds ≠ [] ∧ ∀ x ∈ ds, x.isDigit = true

def Fraction (t : List Char) : Prop := t = [] ∨ ∃ ds, Digits ds ∧ t = '.' :: ds

def Exponent (t : List Char) : Prop :=
  t = [] ∨ ∃ e ∈ ['e', 'E'], ∃ sign ∈ [[], ['+'], ['-']], ∃ ds, Digits ds ∧ t = e :: (sign ++ ds)

/-- A number. Its whole part begins with a zero only when it is zero. -/
inductive NumberText : List Char → Prop
  | parts {sign whole fraction exponent : List Char} (hsign : sign = [] ∨ sign = ['-']) (hwhole : Digits whole)
      (hzero : whole.head? = some '0' → whole = ['0']) (hfraction : Fraction fraction)
      (hexponent : Exponent exponent) : NumberText (sign ++ (whole ++ (fraction ++ exponent)))

def numeric (x : Char) : Bool := x.isDigit || x = '-' || x = '+' || x = '.' || x = 'e' || x = 'E'

theorem Digits.numeric (h : Digits ds) : ∀ x ∈ ds, numeric x = true := fun x hx ↦ by simp [Json.numeric, h.2 x hx]

theorem Fraction.numeric (h : Fraction fraction) : ∀ x ∈ fraction, numeric x = true := by
  obtain rfl | ⟨ds, hds, rfl⟩ := h
  · simp
  · exact List.forall_mem_cons.2 ⟨rfl, hds.numeric⟩

theorem Exponent.numeric (h : Exponent exponent) : ∀ x ∈ exponent, numeric x = true := by
  obtain rfl | ⟨e, he, sign, hsign, ds, hds, rfl⟩ := h
  · simp
  · refine List.forall_mem_cons.2 ⟨?_, List.forall_mem_append.2 ⟨?_, hds.numeric⟩⟩
    · simp only [List.mem_cons, List.not_mem_nil, or_false] at he
      rcases he with rfl | rfl <;> rfl
    · simp only [List.mem_cons, List.not_mem_nil, or_false] at hsign
      rcases hsign with rfl | rfl | rfl <;> simp [Json.numeric]

theorem NumberText.numeric (h : NumberText t) : ∀ x ∈ t, numeric x = true := by
  obtain ⟨hsign, hwhole, -, hfraction, hexponent⟩ := h
  simp only [List.forall_mem_append]
  refine ⟨?_, hwhole.numeric, hfraction.numeric, hexponent.numeric⟩
  rcases hsign with rfl | rfl <;> simp [Json.numeric]

end Lexemes

/-- What a part of a text is to be. An element is a value with white space around it. -/
inductive Nonterminal
  | value
  | element
  | elements
  | object
  | members

/-- The texts of the grammar. -/
inductive Derives : Nonterminal → List Char → Prop
  | word {t : List Char} (h : t ∈ ["null".toList, "true".toList, "false".toList]) : Derives .value t
  | number {t : List Char} (h : NumberText t) : Derives .value t
  | string {t : List Char} (h : StringText t) : Derives .value t
  | emptyArray {w : List Char} (hw : Blank w) : Derives .value ('[' :: (w ++ [']']))
  | array {t : List Char} (h : Derives .elements t) : Derives .value ('[' :: (t ++ [']']))
  | object {t : List Char} (h : Derives .object t) : Derives .value t
  | spaced {w t w' : List Char} (hw : Blank w) (h : Derives .value t) (hw' : Blank w') :
      Derives .element (w ++ (t ++ w'))
  | element {t : List Char} (h : Derives .element t) : Derives .elements t
  | elements {t t' : List Char} (h : Derives .elements t) (h' : Derives .elements t') :
      Derives .elements (t ++ ',' :: t')
  | emptyObject {w : List Char} (hw : Blank w) : Derives .object ('\x7b' :: (w ++ ['\x7d']))
  | braces {t : List Char} (h : Derives .members t) : Derives .object ('\x7b' :: (t ++ ['\x7d']))
  | member {w key w' t : List Char} (hw : Blank w) (hkey : StringText key) (hw' : Blank w') (h : Derives .element t) :
      Derives .members (w ++ (key ++ (w' ++ ':' :: t)))
  | members {t t' : List Char} (h : Derives .members t) (h' : Derives .members t') :
      Derives .members (t ++ ',' :: t')

section Written

theorem writeChar_part (x : Char) : StringPart (writeChar x) := by
  unfold writeChar
  iterate 7
    split
    · exact .letter (by decide)
  split
  next hx =>
    refine .unit rfl fun y hy ↦ ?_
    have hhigh := Number.hexValue?_digitChar (x.toNat / 16) (by omega)
    have hlow := Number.hexValue?_digitChar (x.toNat % 16) (by omega)
    simp only [List.mem_cons, List.not_mem_nil, or_false] at hy
    rcases hy with rfl | rfl | rfl | rfl
    · rfl
    · rfl
    · rw [hhigh]
      rfl
    · rw [hlow]
      rfl
  next hquote hslash _ _ _ _ _ hx => exact .plain hquote hslash (Nat.le_of_not_lt hx)

theorem writeString_text (s : String) : StringText (writeString s) := by
  have hbody (cs : List Char) : StringBody (cs.flatMap writeChar) := by
    induction cs with
    | nil => exact .nil
    | cons x cs ih => exact .cons (writeChar_part x) ih
  exact .quoted (hbody s.toList)

theorem Layout.member_derives (l : Layout) (m : String × String) (hw : Blank w) :
    Derives .members (l.member m ++ w) := by
  have hvalue := Derives.spaced l.value_blank (.string (writeString_text m.2)) hw
  have hmember := Derives.member l.line_blank (writeString_text m.1) (by decide : Blank []) hvalue
  simpa [Layout.member] using hmember

theorem Layout.members_derive (l : Layout) (m : String × String) (ms : List (String × String)) :
    Derives .members (listed true ((m :: ms).map l.member) ++ l.last) := by
  induction ms generalizing m with
  | nil => simpa [listed] using member_derives l m l.last_blank
  | cons m' ms ih =>
    have hmore := Derives.members (member_derives l m (by decide : Blank [])) (ih m')
    simpa [listed] using hmore

theorem Layout.object_derives (l : Layout) (ms : List (String × String)) : Derives .object (l.object ms) := by
  cases ms with
  | nil => exact .emptyObject l.last_blank
  | cons m ms =>
    have hobject := Derives.braces (members_derive l m ms)
    simpa [Layout.object, Layout.members] using hobject

end Written

end CodeRepair.Json

import CodeRepair.Proofs.Json.Lexeme

/-!
The steps over the punctuation of arrays and objects, where a text was written without white space.
-/
namespace CodeRepair.Json

variable {c : Cursor} {x : Char} {xs text rest : List Char} {texts : List (List Char)} {first : Bool} {key : String}

/-- A text that starts as a value does: no white space, and no end of an array. -/
def Begins (text : List Char) : Prop := ∃ x xs, text = x :: xs ∧ Cursor.isSpace x = false ∧ x ≠ ']'

def listed (first : Bool) : List (List Char) → List Char
  | [] => []
  | text :: texts => (if first then text else ',' :: text) ++ listed false texts

def entry (m : String × Value) : List Char := writeString m.1 ++ ':' :: writeCompact m.2

theorem writeCompactItems_eq (vs : List Value) : writeCompactItems vs = listed true (vs.map writeCompact) := by
  induction vs with
  | nil => rfl
  | cons v vs ih =>
    cases vs with
    | nil => exact (List.append_nil _).symm
    | cons v' vs =>
      rw [writeCompactItems, ih]
      · rfl
      · exact List.cons_ne_nil _ _

theorem writeCompactMembers_eq (ms : List (String × Value)) : writeCompactMembers ms = listed true (ms.map entry) := by
  induction ms with
  | nil => rfl
  | cons m ms ih =>
    cases ms with
    | nil => exact (List.append_nil _).symm
    | cons m' ms =>
      rw [writeCompactMembers, ih]
      · simp [listed, entry]
      · exact List.cons_ne_nil _ _

theorem length_le_listed (first : Bool) (h : ∀ text ∈ texts, text ≠ []) :
    texts.length ≤ (listed first texts).length := by
  induction texts generalizing first with
  | nil => exact Nat.zero_le _
  | cons text texts ih =>
    have hrest := ih false fun t ht ↦ h t (by simp [ht])
    have hpos := List.length_pos_iff.2 (h text (by simp))
    rw [listed, List.length_append, List.length_cons]
    cases first with
    | true => simp only [if_true]; omega
    | false => simp only [Bool.false_eq_true, if_false, List.length_cons]; omega

namespace Access

theorem atValue_eq (h : c.rest = x :: xs) (hx : Cursor.isSpace x = false) : atValue c = .ok (x, c) := by
  rw [atValue, Cursor.skipSpace_eq h hx, Cursor.peek?_eq h]

theorem item?_end (h : c.rest = ']' :: rest) (first : Bool) : item? first c = .ok none := by
  rw [item?, Cursor.skipSpace_eq h rfl, Cursor.peek?_eq h]
  rfl

theorem item?_listed (ht : Begins text) (h : c.rest = (if first then text else ',' :: text) ++ rest) :
    ∃ c', item? first c = .ok (some c') ∧ c'.rest = text ++ rest := by
  obtain ⟨x, xs, rfl, hspace, hend⟩ := ht
  cases first with
  | true =>
    refine ⟨c, ?_, h⟩
    rw [item?, Cursor.skipSpace_eq h hspace, Cursor.peek?_eq h]
    simp only [if_neg hend, if_true]
  | false =>
    have hnext : c.advance.rest = x :: xs ++ rest := Cursor.rest_advance h
    refine ⟨c.advance, ?_, hnext⟩
    rw [item?, Cursor.skipSpace_eq h rfl, Cursor.peek?_eq h]
    simp only [Cursor.skipSpace_eq hnext hspace, Cursor.peek?_eq hnext, if_neg hend]
    rfl

theorem string_written (h : c.rest = writeString key ++ rest) :
    ∃ c', Lexeme.string c.advance = .ok (key, c') ∧ c'.rest = rest := by
  refine Lexeme.string_eq ?_
  rw [Cursor.rest_advance h]
  simp

theorem key?_end (h : c.rest = '\x7d' :: rest) (first : Bool) : key? first c = .ok none := by
  rw [key?, Cursor.skipSpace_eq h rfl, Cursor.peek?_eq h]
  rfl

theorem key?_first (h : c.rest = writeString key ++ rest) :
    ∃ c', key? true c = .ok (some (key, c')) ∧ c'.rest = rest := by
  obtain ⟨c', hread, hrest⟩ := string_written h
  refine ⟨c', ?_, hrest⟩
  rw [key?, Cursor.skipSpace_eq h rfl, Cursor.peek?_eq h]
  simp only [if_true, hread]
  rfl

theorem key?_later (h : c.rest = ',' :: (writeString key ++ rest)) :
    ∃ c', key? false c = .ok (some (key, c')) ∧ c'.rest = rest := by
  have hnext := Cursor.rest_advance h
  obtain ⟨c', hread, hrest⟩ := string_written hnext
  refine ⟨c', ?_, hrest⟩
  rw [key?, Cursor.skipSpace_eq h rfl, Cursor.peek?_eq h]
  simp only [Cursor.skipSpace_eq hnext rfl, Cursor.peek?_eq hnext, hread]
  rfl

theorem key?_listed
    (h : c.rest = (if first then writeString key ++ text else ',' :: (writeString key ++ text)) ++ rest) :
    ∃ c', key? first c = .ok (some (key, c')) ∧ c'.rest = text ++ rest := by
  cases first with
  | true => exact key?_first (h.trans (List.append_assoc _ _ _))
  | false => exact key?_later (h.trans (congrArg _ (List.append_assoc _ _ _)))

theorem colon_eq (h : c.rest = ':' :: rest) : ∃ c', colon c = .ok c' ∧ c'.rest = rest := by
  refine ⟨c.advance, ?_, Cursor.rest_advance h⟩
  rw [colon, Cursor.skipSpace_eq h rfl, Cursor.peek?_eq h]
  rfl

theorem closed_array (h : c.rest = ']' :: rest) : ∃ c', closed closeArray c = .ok c' ∧ c'.rest = rest := by
  refine ⟨c.advance, ?_, Cursor.rest_advance h⟩
  rw [closed, closeArray, Cursor.skipSpace_eq h rfl, Cursor.peek?_eq h]
  rfl

theorem closed_object (h : c.rest = '\x7d' :: rest) : ∃ c', closed closeObject c = .ok c' ∧ c'.rest = rest := by
  refine ⟨c.advance, ?_, Cursor.rest_advance h⟩
  rw [closed, closeObject, Cursor.skipSpace_eq h rfl, Cursor.peek?_eq h]
  rfl

theorem finish_eq (h : c.rest = []) : finish c = .ok () := by
  cases c
  cases h
  rfl

end Access

end CodeRepair.Json

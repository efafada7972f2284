import CodeRepair.Proofs.Json.Spacing

/-!
Reading towards an object. Words, numbers and the punctuation of arrays leave an opening brace where it is; a string
that takes one in ends at the first quote after it, which is the quote that opens the first key of the object.
-/
namespace CodeRepair.Json

variable {c c' : Cursor} {x : Char} {w ws tail after : List Char}

namespace Cursor

/-- Between the two places stand only characters other than an opening brace. -/
def Skims (c c' : Cursor) : Prop := ∃ front, c.rest = front ++ c'.rest ∧ '\x7b' ∉ front

/-- The first opening brace still ahead, with `tail` after it. -/
def Ahead (tail : List Char) (c : Cursor) : Prop := ∃ front, c.rest = front ++ '\x7b' :: tail ∧ '\x7b' ∉ front

theorem Skims.refl (c : Cursor) : c.Skims c := ⟨[], rfl, by simp⟩

theorem Skims.trans {c₁ c₂ c₃ : Cursor} (h : c₁.Skims c₂) (h' : c₂.Skims c₃) : c₁.Skims c₃ := by
  obtain ⟨front, hfront, hbrace⟩ := h
  obtain ⟨front', hfront', hbrace'⟩ := h'
  exact ⟨front ++ front', by rw [hfront, hfront', List.append_assoc], by simp [hbrace, hbrace']⟩

theorem Ahead.skims (h : c.Ahead tail) (hs : c.Skims c') : c'.Ahead tail := by
  obtain ⟨front, hfront, hbrace⟩ := h
  obtain ⟨passed, hpassed, hnone⟩ := hs
  rcases List.append_eq_append_iff.1 (hpassed.symm.trans hfront) with ⟨left, rfl, hrest⟩ | ⟨extra, rfl, hextra⟩
  · exact ⟨left, hrest, fun hleft ↦ hbrace (by simp [hleft])⟩
  · cases extra with
    | nil => exact ⟨[], hextra.symm, by simp⟩
    | cons y extra =>
      cases hextra
      exact absurd (by simp) hnone

theorem Ahead.peek? (h : c.Ahead tail) : ∃ x, c.peek? = some x := by
  obtain ⟨front, hfront, -⟩ := h
  rw [Cursor.peek?, hfront]
  cases front with
  | nil => exact ⟨_, rfl⟩
  | cons x front => exact ⟨x, rfl⟩

theorem advance_skims (h : c.peek? ≠ some '\x7b') : c.Skims c.advance := by
  cases hrest : c.rest with
  | nil =>
    rw [advance, hrest]
    exact .refl c
  | cons x xs =>
    refine ⟨[x], ?_, ?_⟩
    · rw [rest_advance hrest, hrest]
      rfl
    · rintro (_ | ⟨_, ⟨⟩⟩)
      exact h (peek?_eq hrest)

theorem advance_skims_of (h : c.peek? = some x) (hx : x ≠ '\x7b') : c.Skims c.advance :=
  advance_skims fun hbrace ↦ hx (Option.some.inj (h.symm.trans hbrace))

theorem skipSpace_skims (c : Cursor) : c.Skims c.skipSpace := by
  refine ⟨c.rest.takeWhile isSpace, ?_, fun hbrace ↦ ?_⟩
  · rw [rest_skipSpace, List.takeWhile_append_dropWhile]
  · exact absurd (List.all_eq_true.1 List.all_takeWhile _ hbrace) (by decide)

theorem word_skims (hw : '\x7b' ∉ ws) (h : c.word ws = .ok c') : c.Skims c' := by
  induction ws generalizing c with
  | nil =>
    cases h
    exact .refl _
  | cons y ws ih =>
    rw [word] at h
    split at h
    · cases h
    next x hpeek =>
      split at h
      next hx =>
        subst hx
        exact (advance_skims_of hpeek fun hx ↦ hw (by simp [hx])).trans (ih (fun hws ↦ hw (by simp [hws])) h)
      · cases h

end Cursor

namespace Lexeme

open Cursor

section Numbers

variable {v : Number} {negative minus : Bool} {significand dropped : Nat} {power : Int}

theorem digits_skims (c : Cursor) : c.Skims (digits c).2 := by
  obtain ⟨left, hleft⟩ : c.rest.takeWhile Char.isDigit <+: c.rest := List.takeWhile_prefix _
  refine ⟨c.rest.takeWhile Char.isDigit, ?_, fun hbrace ↦ ?_⟩
  · have htake := List.prefix_iff_eq_take.1 ⟨left, hleft⟩
    exact (List.take_append_drop _ c.rest).symm.trans (congrArg (· ++ _) htake.symm)
  · exact absurd (List.all_eq_true.1 List.all_takeWhile _ hbrace) (by decide)

theorem real_skims (h : real c negative significand power = .ok (v, c')) : c.Skims c' := by
  unfold real at h
  split at h
  · cases h
    exact .refl c
  · cases h

theorem exponentSign_skims (c : Cursor) : c.Skims (exponentSign c).2 := by
  unfold exponentSign
  split
  next hpeek => exact advance_skims_of hpeek (by decide)
  next hpeek => exact advance_skims_of hpeek (by decide)
  · exact .refl c

theorem exponentDigits_skims (h : exponentDigits c negative significand power minus = .ok (v, c')) : c.Skims c' := by
  have hdigits := digits_skims c
  unfold exponentDigits at h
  rcases hds : digits c with ⟨ds, next⟩
  rw [hds] at h hdigits
  cases ds with
  | nil =>
    dsimp only at h
    split at h <;> cases h
  | cons d ds =>
    dsimp only at h
    split at h
    · split at h
      · cases h
      · cases h
        exact hdigits
    · exact hdigits.trans (real_skims h)

theorem exponent_skims (hc : c.Skims c.advance) (h : exponent c negative significand power = .ok (v, c')) :
    c.Skims c' := by
  rw [exponent_eq] at h
  exact hc.trans ((exponentSign_skims _).trans (exponentDigits_skims h))

theorem fraction_skims (hc : c.Skims c.advance) (h : fraction c negative significand dropped = .ok (v, c')) :
    c.Skims c' := by
  have hdigits := digits_skims c.advance
  rw [fraction] at h
  dsimp only at h
  rcases hds : digits c.advance with ⟨ds, next⟩
  rw [hds] at h hdigits
  cases ds with
  | nil => cases h
  | cons d ds =>
    dsimp only at h
    split at h
    next hpeek => exact (hc.trans hdigits).trans (exponent_skims (advance_skims_of hpeek (by decide)) h)
    next hpeek => exact (hc.trans hdigits).trans (exponent_skims (advance_skims_of hpeek (by decide)) h)
    · exact (hc.trans hdigits).trans (real_skims h)

theorem wholeNumber_skims (h : wholeNumber c negative significand dropped = .ok (v, c')) : c.Skims c' := by
  unfold wholeNumber at h
  split at h
  · exact real_skims h
  split at h
  · cases h
    exact .refl c
  · split at h <;>
    · cases h
      exact .refl c

theorem number_skims (h : number c negative = .ok (v, c')) : c.Skims c' := by
  have hdigits := digits_skims c
  rw [number] at h
  rcases hds : digits c with ⟨ds, next⟩
  rw [hds] at h hdigits
  cases ds with
  | nil =>
    dsimp only at h
    split at h <;> cases h
  | cons d ds =>
    dsimp only at h
    split at h
    · cases h
    split at h
    next hpeek => exact hdigits.trans (fraction_skims (advance_skims_of hpeek (by decide)) h)
    next hpeek => exact hdigits.trans (exponent_skims (advance_skims_of hpeek (by decide)) h)
    next hpeek => exact hdigits.trans (exponent_skims (advance_skims_of hpeek (by decide)) h)
    · exact hdigits.trans (wholeNumber_skims h)

end Numbers

section Strings

variable {state : StringState} {done cs xs front : List Char}

theorem stringFrom_cons (h : stringFrom state done c (x :: xs) = .ok (cs, c')) :
    (x = '"' ∧ c'.rest = xs) ∨
      ∃ state' done' next, stringFrom state' done' next xs = .ok (cs, c') ∧ (x = '\x7b' → state' = .plain) := by
  cases state with
  | plain =>
    rw [stringFrom] at h
    split at h
    next hx =>
      cases h
      exact .inl ⟨hx, rest_past _ _ _⟩
    split at h
    next hx => exact .inr ⟨_, _, _, h, fun hbrace ↦ absurd (hx.symm.trans hbrace) (by decide)⟩
    split at h
    · cases h
    · exact .inr ⟨_, _, _, h, fun _ ↦ rfl⟩
  | escaped =>
    rw [stringFrom] at h
    split at h
    next hx => exact .inr ⟨_, _, _, h, fun hbrace ↦ absurd (hx.symm.trans hbrace) (by decide)⟩
    split at h
    · exact .inr ⟨_, _, _, h, fun _ ↦ rfl⟩
    · cases h
  | hex owed value high =>
    rw [stringFrom] at h
    split at h
    · split at h <;> cases h
    next hdigit =>
      have hx : x ≠ '\x7b' := by
        rintro rfl
        cases hdigit
      split at h
      · split at h
        · exact .inr ⟨_, _, _, h, fun _ ↦ rfl⟩
        · exact .inr ⟨_, _, _, h, fun hbrace ↦ absurd hbrace hx⟩
        · cases h
      · exact .inr ⟨_, _, _, h, fun hbrace ↦ absurd hbrace hx⟩
  | pairSlash high =>
    rw [stringFrom] at h
    split at h
    next hx => exact .inr ⟨_, _, _, h, fun hbrace ↦ absurd (hx.symm.trans hbrace) (by decide)⟩
    · cases h
  | pairLetter high =>
    rw [stringFrom] at h
    split at h
    next hx => exact .inr ⟨_, _, _, h, fun hbrace ↦ absurd (hx.symm.trans hbrace) (by decide)⟩
    · cases h

/-- A string goes no further than the first quote that no backslash can come before. -/
theorem stringFrom_quote (hw : Blank w) (h : stringFrom .plain done c (w ++ '"' :: after) = .ok (cs, c')) :
    c'.rest = after := by
  induction w generalizing done c with
  | nil =>
    rw [List.nil_append, stringFrom] at h
    cases h
    exact rest_past _ _ _
  | cons x w ih =>
    have hspace := hw x (by simp)
    have hquote : x ≠ '"' := by
      rintro rfl
      cases hspace
    have hslash : x ≠ '\\' := by
      rintro rfl
      cases hspace
    rw [List.cons_append, stringFrom] at h
    simp only [if_neg hquote, if_neg hslash] at h
    split at h
    · cases h
    · exact ih (fun y hy ↦ hw y (by simp [hy])) h

theorem stringFrom_ahead (hw : Blank w) (hfront : '\x7b' ∉ front)
    (h : stringFrom state done c (front ++ '\x7b' :: (w ++ '"' :: after)) = .ok (cs, c')) :
    c'.Ahead (w ++ '"' :: after) ∨ c'.rest = after := by
  induction front generalizing state done c with
  | nil =>
    rcases stringFrom_cons h with ⟨hquote, -⟩ | ⟨state', done', next, hnext, hplain⟩
    · cases hquote
    · cases hplain rfl
      exact .inr (stringFrom_quote hw hnext)
  | cons x front ih =>
    have hrest : '\x7b' ∉ front := fun hbrace ↦ hfront (by simp [hbrace])
    rcases stringFrom_cons h with ⟨-, hclosed⟩ | ⟨state', done', next, hnext, -⟩
    · exact .inl ⟨front, hclosed, hrest⟩
    · exact ih hrest hnext

theorem string_ahead {s : String} (hw : Blank w) (hc : c.Ahead (w ++ '"' :: after)) (h : string c = .ok (s, c')) :
    c'.Ahead (w ++ '"' :: after) ∨ c'.rest = after := by
  obtain ⟨front, hrest, hfront⟩ := hc
  rw [string, hrest] at h
  cases hread : stringFrom .plain [] c (front ++ '\x7b' :: (w ++ '"' :: after)) with
  | error fault =>
    rw [hread] at h
    cases h
  | ok r =>
    rw [hread] at h
    cases h
    exact stringFrom_ahead hw hfront hread

end Strings

end Lexeme

/-- A text that goes on neither with an item of an array that has begun nor with its end. -/
def Jams (after : List Char) : Prop := ∃ x xs, after = x :: xs ∧ Cursor.isSpace x = false ∧ x ≠ ',' ∧ x ≠ ']'

namespace Access

open Cursor

theorem atValue_skims (h : atValue c = .ok (x, c')) : c.Skims c' ∧ c'.peek? = some x := by
  rw [atValue] at h
  split at h
  next hpeek =>
    cases h
    exact ⟨skipSpace_skims c, hpeek⟩
  · cases h

theorem item?_skims {first : Bool} (h : item? first c = .ok (some c')) : c.Skims c' := by
  have hspace := skipSpace_skims c
  rw [item?] at h
  dsimp only at h
  split at h
  · cases h
  next x hpeek =>
    split at h
    · cases h
    split at h
    · cases h
      exact hspace
    split at h
    next hx =>
      have hadvance : c.skipSpace.Skims c.skipSpace.advance := advance_skims_of hpeek (by rw [hx]; decide)
      split at h
      · cases h
      split at h
      · cases h
      · cases h
        exact (hspace.trans hadvance).trans (skipSpace_skims _)
    · cases h

theorem closed_array_skims (h : closed closeArray c = .ok c') : c.Skims c' := by
  have hspace := skipSpace_skims c
  rw [closed, closeArray] at h
  dsimp only at h
  cases hpeek : c.skipSpace.peek? with
  | none =>
    rw [hpeek] at h
    cases h
  | some x =>
    rw [hpeek] at h
    by_cases hx : x = ']'
    · simp only [if_pos hx] at h
      cases h
      exact hspace.trans (advance_skims_of hpeek (by rw [hx]; decide))
    · by_cases hcomma : x = ','
      · simp only [if_neg hx, if_pos hcomma] at h
        cases h
      · simp only [if_neg hx, if_neg hcomma] at h
        cases h

theorem item?_jams (hafter : Jams after) (h : c.rest = after) (r : Option Cursor) : item? false c ≠ .ok r := by
  obtain ⟨x, xs, rfl, hspace, hcomma, hend⟩ := hafter
  rw [item?, skipSpace_eq h hspace, peek?_eq h]
  simp only [if_neg hend, if_neg hcomma]
  rintro ⟨⟩

theorem closed_array_jams (hafter : Jams after) (h : c.rest = after) : closed closeArray c ≠ .ok c' := by
  obtain ⟨x, xs, rfl, hspace, hcomma, hend⟩ := hafter
  rw [closed, closeArray, skipSpace_eq h hspace, peek?_eq h]
  simp only [if_neg hend, if_neg hcomma]
  rintro ⟨⟩

theorem finish_ahead (hc : c.Ahead tail) : finish c ≠ .ok () := by
  obtain ⟨x, hpeek⟩ := (hc.skims (skipSpace_skims c)).peek?
  rw [finish, hpeek]
  rintro ⟨⟩

end Access

end CodeRepair.Json

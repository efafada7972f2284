import CodeRepair.Text.Search

/-!
What is found where a character or a pattern stands.
-/
namespace CodeRepair.Text

section Marked

variable {x : Char} {front : List Char} (h : x ∉ front) (rest : List Char)
include h

theorem ne_of_not_mem : ∀ y ∈ front, decide (y ≠ x) = true := by
  intro y hy
  rw [decide_eq_true_eq]
  rintro rfl
  exact h hy

theorem dropWhile_ne_append : (front ++ x :: rest).dropWhile (· ≠ x) = x :: rest := by
  rw [List.dropWhile_append_of_pos (ne_of_not_mem h)]
  exact List.dropWhile_cons_of_neg (by simp)

theorem takeWhile_ne_append : (front ++ x :: rest).takeWhile (· ≠ x) = front := by
  rw [List.takeWhile_append_of_pos (ne_of_not_mem h), List.takeWhile_cons_of_neg (by simp), List.append_nil]

end Marked

theorem cut_at {x y : Char} {cs rest : List Char} (h : cs.dropWhile (· ≠ x) = y :: rest) :
    cs = cs.takeWhile (· ≠ x) ++ x :: rest ∧ x ∉ cs.takeWhile (· ≠ x) := by
  have hy : y = x := by
    have hnot := List.head?_dropWhile_not (· ≠ x) cs
    rw [h] at hnot
    simpa using hnot
  constructor
  · rw [← hy, ← h, hy, List.takeWhile_append_dropWhile]
  · intro hmem
    have hne := List.all_eq_true.1 (List.all_takeWhile (p := (· ≠ x)) (l := cs)) x hmem
    simp at hne

theorem dropPattern?_append (pattern rest : List Char) : dropPattern? pattern (pattern ++ rest) = some rest := by
  induction pattern with
  | nil => cases rest <;> rfl
  | cons p pattern ih => rw [List.cons_append, dropPattern?, if_pos rfl, ih]

theorem dropPattern?_eq_some {pattern text rest : List Char} (h : dropPattern? pattern text = some rest) :
    text = pattern ++ rest := by
  induction pattern generalizing text with
  | nil =>
    cases text <;>
    · cases h
      rfl
  | cons p pattern ih =>
    cases text with
    | nil => cases h
    | cons x text =>
      rw [dropPattern?] at h
      split at h
      next hx => rw [hx, ih h, List.cons_append]
      · cases h

theorem startsWith_iff {pattern text : List Char} : startsWith pattern text = true ↔ pattern <+: text := by
  rw [startsWith, Option.isSome_iff_exists]
  constructor
  · rintro ⟨rest, hrest⟩
    exact ⟨rest, (dropPattern?_eq_some hrest).symm⟩
  · rintro ⟨rest, rfl⟩
    exact ⟨rest, dropPattern?_append pattern rest⟩

theorem occurs_iff {pattern text : List Char} : occurs pattern text = true ↔ pattern <:+: text := by
  induction text with
  | nil => rw [occurs, List.isEmpty_iff, List.infix_nil]
  | cons c cs ih => rw [occurs, Bool.or_eq_true, startsWith_iff, ih, List.infix_cons_iff]

theorem beforeLast?_append (pattern cs rest : List Char) :
    ∃ more, beforeLast? pattern (cs ++ (pattern ++ rest)) = some (cs ++ more) := by
  induction cs with
  | nil =>
    have hstarts := dropPattern?_append pattern rest
    rw [List.nil_append]
    cases htext : pattern ++ rest with
    | nil => exact ⟨[], by simp [beforeLast?, (List.append_eq_nil_iff.1 htext).1]⟩
    | cons x xs =>
      rw [htext] at hstarts
      rw [beforeLast?]
      split
      · exact ⟨_, rfl⟩
      · exact ⟨[], by simp [startsWith, hstarts]⟩
  | cons x cs ih =>
    obtain ⟨more, hmore⟩ := ih
    exact ⟨more, by rw [List.cons_append, beforeLast?, hmore]; rfl⟩

theorem beforeLast?_eq_some {pattern cs front : List Char} (h : beforeLast? pattern cs = some front) :
    ∃ rest, cs = front ++ (pattern ++ rest) := by
  induction cs generalizing front with
  | nil =>
    rw [beforeLast?] at h
    split at h
    next hnil =>
      cases h
      exact ⟨[], by simp [List.isEmpty_iff.1 hnil]⟩
    · cases h
  | cons x cs ih =>
    rw [beforeLast?] at h
    split at h
    next front' hfront =>
      cases h
      obtain ⟨rest, rfl⟩ := ih hfront
      exact ⟨rest, rfl⟩
    · split at h
      next hstarts =>
        cases h
        obtain ⟨rest, hrest⟩ := Option.isSome_iff_exists.1 hstarts
        have htext := dropPattern?_eq_some hrest
        exact ⟨rest, htext⟩
      · cases h

theorem beforeLast?_eq_none_iff {pattern cs : List Char} : beforeLast? pattern cs = none ↔ ¬ pattern <:+: cs := by
  constructor
  · rintro hnone ⟨front, rest, rfl⟩
    obtain ⟨more, hmore⟩ := beforeLast?_append pattern front rest
    rw [List.append_assoc, hmore] at hnone
    cases hnone
  · intro habsent
    apply Option.eq_none_iff_forall_ne_some.2
    intro front hfront
    obtain ⟨rest, rfl⟩ := beforeLast?_eq_some hfront
    exact habsent ⟨front, rest, List.append_assoc front pattern rest⟩

theorem beforeLast?_concat (pattern cs : List Char) : beforeLast? pattern (cs ++ pattern) = some cs := by
  obtain ⟨more, hmore⟩ := beforeLast?_append pattern cs []
  rw [List.append_nil] at hmore
  obtain ⟨rest, hrest⟩ := beforeLast?_eq_some hmore
  have hlength := congrArg List.length hrest
  simp only [List.length_append] at hlength
  have hnil : more = [] := List.length_eq_zero_iff.1 (by omega)
  rw [hmore, hnil, List.append_nil]

end CodeRepair.Text

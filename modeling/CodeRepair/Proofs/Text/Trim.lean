import CodeRepair.Text.Blank
import Mathlib.Data.List.DropRight

/-!
What trimming leaves: nothing exactly of a text that is all blank, and everything from the first character that is no
blank to the last.
-/
namespace CodeRepair.Text

variable {x : Char}

theorem trim_eq_nil_iff (cs : List Char) : trim cs = [] ↔ isAllBlank cs = true := by
  have hend : trim cs = [] ↔ ∀ c ∈ cs.dropWhile isBlank, isBlank c = true := List.rdropWhile_eq_nil_iff
  rw [hend, ← List.dropWhile_eq_nil_iff, List.dropWhile_idempotent, List.dropWhile_eq_nil_iff, isAllBlank,
    List.all_eq_true]

theorem trim_ne_nil {code : String} (h : blank code = false) : trim code.toList ≠ [] := fun ht ↦ by
  rw [blank, (trim_eq_nil_iff _).1 ht] at h
  cases h

theorem trimStart_cons (hx : isBlank x = false) (cs : List Char) : trimStart (x :: cs) = x :: cs :=
  List.dropWhile_cons_of_neg (by simp [hx])

theorem trimStart_suffix (cs : List Char) : trimStart cs <:+ cs := List.dropWhile_suffix isBlank

theorem isBlank_of_trimStart {cs cs' : List Char} (h : trimStart cs = x :: cs') : isBlank x = false := by
  have hhead := List.head?_dropWhile_not isBlank cs
  rw [trimStart] at h
  simpa [h] using hhead

theorem trimEnd_append (cs : List Char) (hx : isBlank x = false) (rest : List Char) :
    trimEnd (cs ++ x :: rest) = cs ++ x :: trimEnd rest := by
  have hreverse : (cs ++ x :: rest).reverse = rest.reverse ++ x :: cs.reverse := by simp
  rw [trimEnd, trimEnd, dropEndWhile, dropEndWhile, hreverse, List.dropWhile_append]
  split
  next hblank => simp [List.isEmpty_iff.1 hblank, hx]
  · simp

theorem trimStart_append (front : List Char) (hx : isBlank x = false) (cs : List Char) :
    trimStart (front ++ x :: cs) = trimStart front ++ x :: cs := by
  rw [trimStart, List.dropWhile_append]
  split
  next hblank =>
    rw [trimStart, List.isEmpty_iff.1 hblank]
    exact trimStart_cons hx cs
  · rfl

theorem trim_between {y : Char} (hx : isBlank x = false) (hy : isBlank y = false) (front cs rest : List Char) :
    trim (front ++ x :: (cs ++ y :: rest)) = trimStart front ++ x :: (cs ++ y :: trimEnd rest) := by
  have hend := trimEnd_append (trimStart front ++ x :: cs) hy rest
  rw [trim, trimStart_append front hx]
  simpa using hend

theorem trimEnd_front (cs : List Char) : trimEnd cs <+: cs := List.rdropWhile_prefix isBlank cs

theorem trim_within (cs : List Char) : trim cs <:+: cs := (trimEnd_front _).isInfix.trans (trimStart_suffix cs).isInfix

theorem trimEnd_blanks (cs : List Char) : ∃ blanks, cs = trimEnd cs ++ blanks ∧ ∀ x ∈ blanks, isBlank x = true :=
  ⟨cs.rtakeWhile isBlank, List.rdropWhile_append_rtakeWhile.symm, fun _ ↦ List.mem_rtakeWhile_imp⟩

theorem trimEnd_of_blank {cs : List Char} (h : ∀ x ∈ cs, isBlank x = true) : trimEnd cs = [] :=
  List.rdropWhile_eq_nil_iff.2 h

theorem trimStart_eq_self_iff {cs : List Char} : trimStart cs = cs ↔ ∀ x ∈ cs.head?, isBlank x = false := by
  cases cs with
  | nil => simp [trimStart]
  | cons x cs =>
    constructor
    · intro h y hy
      cases hy
      exact isBlank_of_trimStart h
    · intro h
      exact trimStart_cons (h x rfl) cs

theorem trimEnd_eq_self_iff {cs : List Char} : trimEnd cs = cs ↔ ∀ x ∈ cs.getLast?, isBlank x = false := by
  have hself : trimEnd cs = cs ↔ ∀ h : cs ≠ [], ¬ isBlank (cs.getLast h) = true := List.rdropWhile_eq_self_iff
  rw [hself]
  cases cs with
  | nil => simp
  | cons x cs => simp [List.getLast?_eq_getLast_of_ne_nil]

theorem trim_eq_self_iff {cs : List Char} : trim cs = cs ↔ trimStart cs = cs ∧ trimEnd cs = cs := by
  constructor
  · intro h
    have hlength := (trimEnd_front (trimStart cs)).length_le
    have hstart : trimStart cs = cs := by
      apply (trimStart_suffix cs).eq_of_length_le
      rw [← trim, h] at hlength
      exact hlength
    rw [trim, hstart] at h
    exact ⟨hstart, h⟩
  · rintro ⟨hstart, hend⟩
    rw [trim, hstart, hend]

theorem trim_trim (cs : List Char) : trim (trim cs) = trim cs := by
  have hend : trimEnd (trim cs) = trim cs := List.rdropWhile_idempotent _ _
  rw [trim_eq_self_iff]
  refine ⟨?_, hend⟩
  cases hstart : trimStart cs with
  | nil =>
    rw [trim, hstart]
    rfl
  | cons x rest =>
    have hx := isBlank_of_trimStart hstart
    have hkept : trim cs = x :: trimEnd rest := by
      rw [trim, hstart]
      exact trimEnd_append [] hx rest
    rw [hkept]
    exact trimStart_cons hx _

theorem trimStart_blanks (cs : List Char) : ∃ blanks, cs = blanks ++ trimStart cs ∧ ∀ x ∈ blanks, isBlank x = true :=
  ⟨cs.takeWhile isBlank, List.takeWhile_append_dropWhile.symm, fun _ ↦ List.mem_takeWhile_imp⟩

theorem trim_blanks (cs : List Char) : ∃ lead tail, cs = lead ++ (trim cs ++ tail) ∧
    (∀ x ∈ lead, isBlank x = true) ∧ ∀ x ∈ tail, isBlank x = true := by
  obtain ⟨lead, hlead, hleadblank⟩ := trimStart_blanks cs
  obtain ⟨tail, htail, htailblank⟩ := trimEnd_blanks (trimStart cs)
  exact ⟨lead, tail, hlead.trans (congrArg (lead ++ ·) htail), hleadblank, htailblank⟩

section Tight

variable {front lead message tail : List Char} (hne : message ≠ []) (htrim : trim message = message)
include hne htrim

theorem trim_after (hlead : ∀ x ∈ lead, isBlank x = true) : trim (lead ++ message) = message := by
  obtain ⟨hstart, hend⟩ := trim_eq_self_iff.1 htrim
  cases message with
  | nil => exact absurd rfl hne
  | cons x rest =>
    have hx := trimStart_eq_self_iff.1 hstart x rfl
    have hlead' : trimStart (lead ++ x :: rest) = x :: rest := by
      rw [trimStart_append lead hx, trimStart, List.dropWhile_eq_nil_iff.2 hlead, List.nil_append]
    rw [trim, hlead', hend]

theorem trimEnd_before (htail : ∀ x ∈ tail, isBlank x = true) :
    trimEnd (front ++ (message ++ tail)) = front ++ message := by
  obtain ⟨-, hend⟩ := trim_eq_self_iff.1 htrim
  have hlast := trimEnd_eq_self_iff.1 hend
  obtain ⟨init, x, rfl⟩ := (List.eq_nil_or_concat' message).resolve_left hne
  have hx : isBlank x = false := hlast x (by simp)
  have hsplit : front ++ (init ++ [x] ++ tail) = (front ++ init) ++ x :: tail := by simp
  rw [hsplit, trimEnd_append _ hx, trimEnd_of_blank htail]
  simp

end Tight

end CodeRepair.Text

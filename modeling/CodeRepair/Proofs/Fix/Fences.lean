import CodeRepair.Fix.Reply
import CodeRepair.Proofs.Text.Search
import CodeRepair.Proofs.Text.Trim

/-!
What stands in a code fence: the opening fence is the first of a text and the closing one the last, so code that was put
in a fence comes out of it whatever fences it holds itself.
-/
namespace CodeRepair.Reply

open Text

variable {text tag body lead tail opened : List Char}

section Opening

/-- Where the fence that opens a text may be closed: after its first line, or behind the fence when it has no other. -/
def afterOpening (text : List Char) : List Char :=
  if '\n' ∈ text then (text.dropWhile (· ≠ '\n')).tail else text.drop fence.length

theorem newline_not_mem_opening {line : List Char} (h : '\n' ∉ line) : '\n' ∉ fence ++ line := by
  intro hmem
  rcases List.mem_append.1 hmem with hfence | hline
  · exact absurd hfence (by decide)
  · exact h hline

theorem afterOpening_lines (htag : '\n' ∉ tag) (body : List Char) :
    afterOpening (fence ++ (tag ++ '\n' :: body)) = body := by
  have hdrop : (fence ++ tag ++ '\n' :: body).dropWhile (· ≠ '\n') = '\n' :: body :=
    dropWhile_ne_append (newline_not_mem_opening htag) body
  rw [afterOpening, if_pos (by simp), ← List.append_assoc, hdrop, List.tail_cons]

theorem afterOpening_line (hopened : '\n' ∉ opened) : afterOpening (fence ++ opened) = opened := by
  rw [afterOpening, if_neg (newline_not_mem_opening hopened), List.drop_left]

theorem exists_opening (h : fence <+: text) : ∃ opening, text = fence ++ (opening ++ afterOpening text) ∧
    ((∃ line, opening = line ++ ['\n'] ∧ '\n' ∉ line) ∨ opening = [] ∧ '\n' ∉ afterOpening text) := by
  obtain ⟨opened, rfl⟩ := h
  by_cases hline : '\n' ∈ opened
  · obtain ⟨tag, body, rfl, htag⟩ := List.eq_append_cons_of_mem hline
    refine ⟨tag ++ ['\n'], ?_, .inl ⟨tag, rfl, htag⟩⟩
    rw [afterOpening_lines htag, ← List.append_cons]
  · refine ⟨[], ?_, .inr ⟨rfl, ?_⟩⟩
    · rw [afterOpening_line hline, List.nil_append]
    · rwa [afterOpening_line hline]

theorem stripFences_unopened (h : ¬ fence <+: trim text) : stripFences text = none := by
  rw [stripFences]
  cases hopened : dropPattern? fence (trim text) with
  | none => rfl
  | some opened => exact absurd ⟨opened, (dropPattern?_eq_some hopened).symm⟩ h

theorem stripFences_opened (h : fence <+: trim text) :
    stripFences text = (beforeLast? fence (afterOpening (trim text))).map trimEnd := by
  obtain ⟨opened, hopened⟩ := h
  rw [stripFences, ← hopened, dropPattern?_append]
  by_cases hline : '\n' ∈ opened
  · obtain ⟨tag, body, rfl, htag⟩ := List.eq_append_cons_of_mem hline
    have hdrop : (tag ++ '\n' :: body).dropWhile (· ≠ '\n') = '\n' :: body := dropWhile_ne_append htag body
    rw [afterOpening_lines htag]
    simp only [bind, Option.bind, hdrop]
  · have hdrop : opened.dropWhile (· ≠ '\n') = [] := List.dropWhile_eq_nil_iff.2 (ne_of_not_mem hline)
    rw [afterOpening_line hline]
    simp only [bind, Option.bind, hdrop]

theorem stripFences_eq_none_iff (text : List Char) :
    stripFences text = none ↔ ¬ fence <+: trim text ∨ ¬ fence <:+: afterOpening (trim text) := by
  by_cases h : fence <+: trim text
  · rw [stripFences_opened h, Option.map_eq_none_iff, beforeLast?_eq_none_iff]
    exact (or_iff_right (not_not_intro h)).symm
  · exact iff_of_true (stripFences_unopened h) (.inl h)

end Opening

section Wrapping

def wrapped (tag body : List Char) : List Char := fence ++ (tag ++ '\n' :: (body ++ '\n' :: fence))

theorem trim_wrapped (hlead : ∀ x ∈ lead, isBlank x = true) (htail : ∀ x ∈ tail, isBlank x = true)
    (tag body : List Char) : trim (lead ++ (wrapped tag body ++ tail)) = wrapped tag body := by
  have hmark : isBlank (Char.ofNat 0x60) = false := by decide
  have htrim := trim_between hmark hmark lead
    (List.replicate 2 (Char.ofNat 0x60) ++ (tag ++ '\n' :: (body ++ '\n' :: List.replicate 2 (Char.ofNat 0x60)))) tail
  have hstart : trimStart lead = [] := List.dropWhile_eq_nil_iff.2 hlead
  rw [hstart, trimEnd_of_blank htail] at htrim
  simpa [wrapped, fence] using htrim

/-- A text that is code in a fence, with a tag that stays on its line and blanks around it. -/
def Wraps (text body : List Char) : Prop :=
  ∃ tag lead tail, text = lead ++ (wrapped tag body ++ tail) ∧ '\n' ∉ tag ∧
    (∀ x ∈ lead, isBlank x = true) ∧ ∀ x ∈ tail, isBlank x = true

theorem stripFences_of_wraps (h : Wraps text body) : stripFences text = some (trimEnd body) := by
  obtain ⟨tag, lead, tail, rfl, htag, hlead, htail⟩ := h
  have htrim := trim_wrapped hlead htail tag body
  have hopens : fence <+: trim (lead ++ (wrapped tag body ++ tail)) := by
    rw [htrim]
    exact List.prefix_append _ _
  have hcode : beforeLast? fence (body ++ '\n' :: fence) = some (body ++ ['\n']) := by
    rw [List.append_cons]
    exact beforeLast?_concat fence (body ++ ['\n'])
  have hend : trimEnd (body ++ ['\n']) = trimEnd body := List.rdropWhile_concat_pos _ _ _ (by decide)
  rw [stripFences_opened hopens, htrim, wrapped, afterOpening_lines htag, hcode, Option.map_some, hend]

end Wrapping

end CodeRepair.Reply

import CodeRepair.Text.Search

/-!
The pieces of a text between its separators, and the part in front that is all of one kind.
-/
namespace CodeRepair.Text

variable {p : Char → Bool} {x : Char} {cs piece front rest line : List Char} {pieces : List (List Char)}

theorem splitAt_eq_splitOnP (p : Char → Bool) (cs : List Char) : splitAt p cs = cs.splitOnP p := by
  induction cs with
  | nil => rfl
  | cons c cs ih =>
    rw [splitAt, ih, List.splitOnP_cons_eq_if_modifyHead]
    cases hcs : cs.splitOnP p with
    | nil => exact absurd hcs (List.splitOnP_ne_nil p cs)
    | cons first pieces => rfl

theorem splitAt_ne_nil (p : Char → Bool) (cs : List Char) : splitAt p cs ≠ [] := by
  rw [splitAt_eq_splitOnP]
  exact List.splitOnP_ne_nil p cs

theorem splitAt_cons (p : Char → Bool) (c : Char) (cs : List Char) : ∃ first pieces, splitAt p cs = first :: pieces ∧
    splitAt p (c :: cs) = if p c then [] :: first :: pieces else (c :: first) :: pieces := by
  cases hcs : splitAt p cs with
  | nil => exact absurd hcs (splitAt_ne_nil p cs)
  | cons first pieces =>
    refine ⟨first, pieces, rfl, ?_⟩
    rw [splitAt, hcs]

theorem splitAt_of_none (h : ∀ c ∈ cs, p c = false) : splitAt p cs = [cs] := by
  rw [splitAt_eq_splitOnP]
  exact List.splitOnP_eq_singleton h

theorem splitAt_append (hx : p x = true) (cs rest : List Char) :
    splitAt p (cs ++ x :: rest) = splitAt p cs ++ splitAt p rest := by
  simp only [splitAt_eq_splitOnP]
  exact List.splitOnP_append_cons cs rest hx

theorem splitAt_subset (hpiece : piece ∈ splitAt p cs) : piece ⊆ cs := by
  induction cs generalizing piece with
  | nil =>
    rw [splitAt, List.mem_singleton] at hpiece
    rw [hpiece]
    exact List.nil_subset _
  | cons c cs ih =>
    obtain ⟨first, pieces, hcs, hcons⟩ := splitAt_cons p c cs
    rw [hcs] at ih
    rw [hcons] at hpiece
    have hkeep (piece : List Char) (hmem : piece ∈ first :: pieces) : piece ⊆ c :: cs :=
      fun x hx ↦ List.mem_cons_of_mem _ (ih hmem hx)
    split at hpiece
    · rcases List.mem_cons.1 hpiece with rfl | hmem
      · exact List.nil_subset _
      · exact hkeep _ hmem
    · rcases List.mem_cons.1 hpiece with rfl | hmem
      · exact List.cons_subset_cons c (ih List.mem_cons_self)
      · exact hkeep _ (List.mem_cons_of_mem _ hmem)

theorem not_separator_of_mem (hpiece : piece ∈ splitAt p cs) : ∀ c ∈ piece, p c = false := by
  induction cs generalizing piece with
  | nil =>
    rw [splitAt, List.mem_singleton] at hpiece
    rw [hpiece]
    exact nofun
  | cons c cs ih =>
    obtain ⟨first, pieces, hcs, hcons⟩ := splitAt_cons p c cs
    rw [hcs] at ih
    rw [hcons] at hpiece
    split at hpiece
    · rcases List.mem_cons.1 hpiece with rfl | hmem
      · exact nofun
      · exact ih hmem
    next hc =>
      rcases List.mem_cons.1 hpiece with rfl | hmem
      · exact List.forall_mem_cons.2 ⟨by simpa using hc, ih List.mem_cons_self⟩
      · exact ih (List.mem_cons_of_mem _ hmem)

/-- The pieces are those of which the text is joined, with the separator in none of them. -/
theorem splitAt_eq_iff :
    splitAt (· = x) cs = pieces ↔ pieces ≠ [] ∧ (∀ piece ∈ pieces, x ∉ piece) ∧ [x].intercalate pieces = cs := by
  have hsplit (cs : List Char) : splitAt (· = x) cs = cs.splitOn x := splitAt_eq_splitOnP _ cs
  constructor
  · rintro rfl
    refine ⟨splitAt_ne_nil _ cs, fun piece hpiece hmem ↦ ?_, ?_⟩
    · simpa using not_separator_of_mem hpiece x hmem
    · rw [hsplit]
      exact List.intercalate_splitOn x
  · rintro ⟨hne, hfree, rfl⟩
    rw [hsplit]
    exact List.splitOn_intercalate x hfree hne

def endedLine (piece : List Char) : List Char :=
  match piece.getLast? with
  | some '\r' => piece.dropLast
  | _ => piece

theorem endedLine_cases (piece : List Char) :
    endedLine piece = piece ∨ piece = endedLine piece ++ ['\r'] := by
  rw [endedLine]
  split
  next hlast =>
    obtain ⟨front, rfl⟩ := List.getLast?_eq_some_iff.1 hlast
    rw [List.dropLast_concat]
    exact .inr rfl
  · exact .inl rfl

theorem lines_eq (cs : List Char) : lines cs = (splitAt (· = '\n') cs).dropLast.map endedLine ++
    ((splitAt (· = '\n') cs).getLast?.toList.filter (! ·.isEmpty)) := by
  rw [lines]
  cases hlast : (splitAt (· = '\n') cs).getLast? with
  | none => exact (List.append_nil _).symm
  | some last =>
    cases last with
    | nil => exact (List.append_nil _).symm
    | cons c rest => rfl

theorem exists_piece_of_line (hline : line ∈ lines cs) : ∃ piece ∈ splitAt (· = '\n') cs, line <+: piece := by
  rw [lines_eq, List.mem_append] at hline
  rcases hline with hended | hlast
  · obtain ⟨piece, hpiece, rfl⟩ := List.mem_map.1 hended
    refine ⟨piece, List.dropLast_subset _ hpiece, ?_⟩
    rcases endedLine_cases piece with heq | heq
    · exact ⟨[], (List.append_nil _).trans heq⟩
    · exact ⟨['\r'], heq.symm⟩
  · have hmem := (List.mem_filter.1 hlast).1
    exact ⟨line, List.mem_of_getLast? (by simpa using hmem), List.prefix_rfl⟩

theorem lines_subset (hline : line ∈ lines cs) : line ⊆ cs := by
  obtain ⟨piece, hpiece, hfront⟩ := exists_piece_of_line hline
  exact List.Subset.trans hfront.subset (splitAt_subset hpiece)

theorem newline_not_mem_of_line (hline : line ∈ lines cs) : '\n' ∉ line := by
  obtain ⟨piece, hpiece, hfront⟩ := exists_piece_of_line hline
  intro hmem
  have hfree := not_separator_of_mem hpiece '\n' (hfront.subset hmem)
  simp at hfree

/-- To what sees no carriage return at the end and nothing in an empty line, the lines are the pieces. -/
theorem filterMap_lines {α : Type} {f : List Char → Option α} (hnil : f [] = none)
    (hend : ∀ piece, f (piece ++ ['\r']) = f piece) (cs : List Char) :
    (lines cs).filterMap f = (splitAt (· = '\n') cs).filterMap f := by
  have hended : f ∘ endedLine = f := by
    funext piece
    rw [Function.comp_apply]
    rcases endedLine_cases piece with heq | heq
    · rw [heq]
    · rw [← hend, ← heq]
  have hlast (last : List Char) : ([last].filter (! ·.isEmpty)).filterMap f = [last].filterMap f := by
    cases last with
    | nil => simp [hnil]
    | cons c rest => rfl
  obtain hnone | ⟨pieces, last, hpieces⟩ := List.eq_nil_or_concat (splitAt (· = '\n') cs)
  · exact absurd hnone (splitAt_ne_nil _ _)
  rw [List.concat_eq_append] at hpieces
  rw [lines_eq, hpieces, List.dropLast_concat, List.getLast?_concat, List.filterMap_append, List.filterMap_append,
    List.filterMap_map, hended]
  exact congrArg (pieces.filterMap f ++ ·) (hlast last)

theorem takeWhile_stops (hfront : ∀ c ∈ front, p c = true) (hrest : ∀ c, rest.head? = some c → p c = false) :
    (front ++ rest).takeWhile p = front := by
  rw [List.takeWhile_append_of_pos hfront]
  cases rest with
  | nil => simp
  | cons c rest => simp [hrest c rfl]

theorem dropWhile_stops (hfront : ∀ c ∈ front, p c = true) (hrest : ∀ c, rest.head? = some c → p c = false) :
    (front ++ rest).dropWhile p = rest := by
  rw [List.dropWhile_append_of_pos hfront]
  cases rest with
  | nil => rfl
  | cons c rest => simp [hrest c rfl]

theorem dropWhile_head {c : Char} (h : (cs.dropWhile p).head? = some c) : p c = false := by
  have hnot := List.head?_dropWhile_not p cs
  simpa [h] using hnot

end CodeRepair.Text

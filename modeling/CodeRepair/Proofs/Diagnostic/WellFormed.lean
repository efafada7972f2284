import CodeRepair.Proofs.Diagnostic.Compiler
import CodeRepair.Proofs.Diagnostic.Traceback

/-!
Whatever a program or compiler writes, a diagnostic has a line that can be one and says something, in one line. Digits
that are no line make no diagnostic.
-/
namespace CodeRepair.Diagnostic

open Text

variable {cs digits name line : List Char} {d : Diagnostic} {message text : String}

/-- A diagnostic that can be shown: its places are in range and its message is one line without blanks around it. -/
structure WellFormed (d : Diagnostic) : Prop where
  line_pos : 0 < d.line
  line_le : d.line ≤ maxPlace
  column_le : ∀ column ∈ d.column, column ≤ maxPlace
  message_ne : d.message ≠ ""
  message_single : '\n' ∉ d.message.toList
  message_trimmed : trimmed d.message = d.message

/-- Digits that are no line: zero counts as none. -/
def NoLine (digits : List Char) : Prop := Misfit digits ∨ Number.Spells digits 0

theorem trimmed_ofList (h : trim cs = cs) : trimmed (String.ofList cs) = String.ofList cs := by
  rw [trimmed, String.toList_ofList, h]

theorem trim_of_not_blank (h : ∀ c ∈ cs, isBlank c = false) : trim cs = cs := by
  rw [trim_eq_self_iff, trimStart_eq_self_iff, trimEnd_eq_self_iff]
  exact ⟨fun c hc ↦ h c (List.mem_of_mem_head? hc), fun c hc ↦ h c (List.mem_of_mem_getLast? hc)⟩

section Exceptions

theorem toNat_of_isAlpha {c : Char} (h : c.isAlpha = true) : 0x41 ≤ c.toNat ∧ c.toNat ≤ 0x7A := by
  have hletter : c.isUpper = true ∨ c.isLower = true := Bool.or_eq_true_iff.1 h
  rcases hletter with hupper | hlower
  · have hrange : 0x41 ≤ c.toNat ∧ c.toNat ≤ 0x5A := of_decide_eq_true hupper
    omega
  · have hboth : decide (c.val ≥ 'a'.val) = true ∧ decide (c.val ≤ 'z'.val) = true := Bool.and_eq_true_iff.1 hlower
    have hleast : 0x61 ≤ c.toNat := of_decide_eq_true hboth.1
    have hmost : c.toNat ≤ 0x7A := of_decide_eq_true hboth.2
    omega

theorem isBlank_of_isNameChar {c : Char} (h : isNameChar c = true) : isBlank c = false := by
  have hrange : 0x2E ≤ c.toNat ∧ c.toNat < 0x80 := by
    simp only [isNameChar, Char.isAlphanum, Bool.or_eq_true, decide_eq_true_eq] at h
    rcases h with ((hletter | hdigit) | rfl) | rfl
    · have hletter := toNat_of_isAlpha hletter
      omega
    · have hdigit : 0x30 ≤ c.toNat ∧ c.toNat ≤ 0x39 := Number.isDigit_iff.1 hdigit
      omega
    · decide
    · decide
  simp only [isBlank, if_pos hrange.2, Bool.or_eq_false_iff, Bool.and_eq_false_iff, decide_eq_false_iff_not]
  omega

theorem ExceptionName.ne_nil (h : ExceptionName name) : name ≠ [] := by
  obtain ⟨first, middle, ending, rfl, -⟩ := h
  exact List.cons_ne_nil _ _

theorem ExceptionName.not_blank (h : ExceptionName name) : ∀ c ∈ name, isBlank c = false :=
  fun c hc ↦ isBlank_of_isNameChar (h.all_name c hc)

theorem ExceptionText.ne_empty (h : ExceptionText cs message) : message ≠ "" := by
  cases h with
  | bare hname => simpa using hname.ne_nil
  | empty hname => simpa using hname.ne_nil
  | detailed hname => simp

theorem ExceptionText.subset (h : ExceptionText cs message) : message.toList ⊆ ' ' :: cs := by
  intro c hc
  cases h with
  | bare hname => exact List.mem_cons_of_mem _ (by simpa using hc)
  | empty hname => exact List.mem_cons_of_mem _ (List.mem_append_left _ (by simpa using hc))
  | detailed hname =>
    simp only [String.toList_ofList, List.mem_append, List.mem_cons] at hc ⊢
    tauto

theorem ExceptionText.trimmed (h : ExceptionText cs message) (hcs : trim cs = cs) : trimmed message = message := by
  cases h with
  | bare hname => exact trimmed_ofList hcs
  | empty hname => exact trimmed_ofList (trim_of_not_blank hname.not_blank)
  | @detailed name blanks detail c hname =>
    apply trimmed_ofList
    obtain ⟨hstart, hend⟩ := trim_eq_self_iff.1 hcs
    rw [trim_eq_self_iff, trimStart_eq_self_iff, trimEnd_eq_self_iff]
    rw [trimStart_eq_self_iff] at hstart
    rw [trimEnd_eq_self_iff] at hend
    constructor
    · cases name with
      | nil => exact absurd rfl hname.ne_nil
      | cons first more => exact hstart
    · have hlast : (name ++ ':' :: ' ' :: c :: detail).getLast? = (name ++ ':' :: (blanks ++ c :: detail)).getLast? := by
        simp [List.getLast?_append, List.getLast?_cons]
      rw [hlast]
      exact hend

end Exceptions

section Readings

theorem wellFormed_of_traceback (h : d ∈ ofTraceback cs) : d.WellFormed := by
  obtain ⟨⟨digits, -, hline⟩, ⟨before, line, after, hlines, ⟨-, hmessage⟩, -⟩, hpos, hcolumn, -⟩ :=
    (mem_ofTraceback cs).1 h
  have hsingle : '\n' ∉ trim line := by
    intro hmem
    exact newline_not_mem_of_line (by rw [hlines]; simp) ((trim_within line).subset hmem)
  constructor
  · exact hpos
  · exact (place?_eq_some.1 hline).2
  · simp [hcolumn]
  · exact hmessage.ne_empty
  · intro hmem
    have hspace := hmessage.subset hmem
    simp [hsingle] at hspace
  · exact hmessage.trimmed (trim_trim line)

theorem Entry.diagnostic?_eq_some {e : Entry} : e.diagnostic? = some d ↔ SpellsPlace e.line d.line ∧ 0 < d.line ∧
    d.column = place? e.column ∧ d.severity = severityOf e.kind ∧ d.message = String.ofList e.message := by
  obtain ⟨line, column, severity, message⟩ := d
  rw [diagnostic?, Option.map_eq_some_iff]
  simp only [Option.filter_eq_some_iff, place?_eq_some, decide_eq_true_eq, Diagnostic.mk.injEq]
  constructor
  · rintro ⟨n, ⟨hfits, hpos⟩, rfl, rfl, rfl, rfl⟩
    exact ⟨hfits, hpos, rfl, rfl, rfl⟩
  · rintro ⟨hfits, hpos, rfl, rfl, rfl⟩
    exact ⟨line, ⟨hfits, hpos⟩, rfl, rfl, rfl, rfl⟩

theorem wellFormed_of_compiler (h : d ∈ scan .cpp text) : d.WellFormed := by
  rw [scan_cpp_lines, List.mem_filterMap] at h
  obtain ⟨line, hline, hd⟩ := h
  obtain ⟨e, rfl⟩ := exists_entry hd
  rw [Entry.ofCompilerLine?_text] at hd
  obtain ⟨hfits, hpos, hcolumn, -, hmessage⟩ := Entry.diagnostic?_eq_some.1 hd
  have hsingle : '\n' ∉ e.message := by
    intro hmem
    exact newline_not_mem_of_line hline (by simp [Entry.text, hmem])
  constructor
  · exact hpos
  · exact hfits.2
  · intro column hmem
    rw [hcolumn] at hmem
    exact (place?_eq_some.1 hmem).2
  · simpa [hmessage] using e.message_ne
  · simpa [hmessage] using hsingle
  · rw [hmessage]
    exact trimmed_ofList e.message_trimmed

theorem wellFormed_of_mem (language : Language) (h : d ∈ scan language text) : d.WellFormed := by
  cases language with
  | python =>
    rw [scan_python] at h
    exact wellFormed_of_traceback h
  | cpp => exact wellFormed_of_compiler h

theorem length_scan_cpp_line (hsingle : '\n' ∉ line) : (scan .cpp (String.ofList line)).length ≤ 1 := by
  rw [scan_cpp_line (by rwa [String.toList_ofList])]
  exact Option.length_toList_le

theorem scan_cpp_flatMap (text : String) :
    scan .cpp text = (lines text.toList).flatMap fun line ↦ scan .cpp (String.ofList line) := by
  have hline : ∀ line ∈ lines text.toList, scan .cpp (String.ofList line) = (ofCompilerLine? line).toList := by
    intro line hline
    rw [scan_cpp_line (by simpa using newline_not_mem_of_line hline), String.toList_ofList]
  rw [scan_cpp_lines, List.flatMap_congr hline, List.filterMap_eq_flatMap_toList]

end Readings

section Misfits

theorem NoLine.not_spellsPlace (h : NoLine digits) {n : Nat} (hfits : SpellsPlace digits n) : n = 0 := by
  rcases h with hmisfit | hzero
  · exact absurd hfits (hmisfit.not_spellsPlace n)
  · exact hfits.1.value.symm.trans hzero.value

theorem line_or_noLine (hne : digits ≠ []) : NoLine digits ∨ ∃ n, 0 < n ∧ SpellsPlace digits n := by
  rcases spellsPlace_or_misfit hne with ⟨n, hfits⟩ | hmisfit
  · rcases Nat.eq_zero_or_pos n with rfl | hpos
    · exact .inl (.inr hfits.1)
    · exact .inr ⟨n, hpos, hfits⟩
  · exact .inl (.inl hmisfit)

theorem Last.unique {α β : Type} {R : α → β → Prop} {xs : List α} {b b' : β}
    (hR : ∀ x b b', R x b → R x b' → b = b') (h : Last R xs b) (h' : Last R xs b') : b = b' := by
  induction xs using List.reverseRecOn with
  | nil => exact absurd h not_last_nil
  | append_singleton xs x ih =>
    rcases last_concat.1 h with hx | ⟨hnone, hxs⟩
    · rcases last_concat.1 h' with hx' | ⟨hnone', -⟩
      · exact hR x b b' hx hx'
      · exact absurd hx (hnone' b)
    · rcases last_concat.1 h' with hx' | ⟨-, hxs'⟩
      · exact absurd hx' (hnone b')
      · exact ih hxs hxs'

theorem FirstFrame.unique {digits' : List Char} (h : FirstFrame line digits) (h' : FirstFrame line digits') :
    digits = digits' := by
  rw [← frame?_eq_some] at h h'
  exact Option.some.inj (h.symm.trans h')

theorem scan_python_of_noLine (hlast : Last FirstFrame (lines text.toList) digits) (h : NoLine digits) :
    scan .python text = [] := by
  rw [scan_python, List.eq_nil_iff_forall_not_mem]
  intro d hd
  obtain ⟨⟨digits', hlast', hline⟩, -, hpos, -⟩ := (mem_ofTraceback _).1 hd
  have hsame : digits = digits' := Last.unique (R := FirstFrame) (fun _ _ _ ↦ FirstFrame.unique) hlast hlast'
  rw [← hsame, place?_eq_some] at hline
  have hzero := h.not_spellsPlace hline
  omega

variable (e : Entry)

theorem Entry.scan_text (h : '\n' ∉ e.text) : scan .cpp (String.ofList e.text) = e.diagnostic?.toList := by
  rw [scan_cpp_line (by rwa [String.toList_ofList]), String.toList_ofList, ofCompilerLine?_text]

theorem Entry.diagnostic?_of_noLine (h : NoLine e.line) : e.diagnostic? = none := by
  rw [Option.eq_none_iff_forall_ne_some]
  intro d hd
  obtain ⟨hfits, hpos, -⟩ := diagnostic?_eq_some.1 hd
  have hzero := h.not_spellsPlace hfits
  omega

theorem Entry.column_cases :
    Misfit e.column ∧ place? e.column = none ∨ ∃ k, SpellsPlace e.column k ∧ place? e.column = some k := by
  rcases spellsPlace_or_misfit e.column_digits.1 with ⟨k, hfits⟩ | hmisfit
  · exact .inr ⟨k, hfits, place?_eq_some.2 hfits⟩
  · exact .inl ⟨hmisfit, hmisfit.place?_eq_none⟩

end Misfits

/-- Diagnostics are well formed. A Python text gives at most one, an error without a column, and none if the last frame
has no line; of a compiler's output each line gives its own, at most one. An entry without a line gives none, and any
other gives one, without a column if its column is none. -/
theorem diagnostics_well_formed :
    (∀ language text, ∀ d ∈ scan language text, d.WellFormed) ∧
    (∀ text, (scan .python text).length ≤ 1 ∧ ∀ d ∈ scan .python text, d.severity = .error ∧ d.column = none) ∧
    (∀ text, scan .cpp text = (lines text.toList).flatMap (fun line ↦ scan .cpp (String.ofList line)) ∧
      ∀ line ∈ lines text.toList, (scan .cpp (String.ofList line)).length ≤ 1) ∧
    (∀ text digits, Last FirstFrame (lines text.toList) digits → NoLine digits → scan .python text = []) ∧
    ∀ e : Entry, '\n' ∉ e.text →
      NoLine e.line ∧ scan .cpp (String.ofList e.text) = [] ∨
      ∃ line column, 0 < line ∧ SpellsPlace e.line line ∧
        (Misfit e.column ∧ column = none ∨ ∃ k, SpellsPlace e.column k ∧ column = some k) ∧
        scan .cpp (String.ofList e.text) = [⟨line, column, severityOf e.kind, String.ofList e.message⟩] := by
  refine ⟨?_, ?_, ?_, ?_, ?_⟩
  · intro language text d hd
    exact wellFormed_of_mem language hd
  · intro text
    rw [scan_python]
    refine ⟨length_ofTraceback_le _, ?_⟩
    intro d hd
    obtain ⟨-, -, -, hcolumn, hseverity⟩ := (mem_ofTraceback _).1 hd
    exact ⟨hseverity, hcolumn⟩
  · intro text
    refine ⟨scan_cpp_flatMap text, ?_⟩
    intro line hline
    exact length_scan_cpp_line (newline_not_mem_of_line hline)
  · intro text digits hlast hnone
    exact scan_python_of_noLine hlast hnone
  · intro e hsingle
    rw [e.scan_text hsingle]
    rcases line_or_noLine e.line_digits.1 with hnone | ⟨line, hpos, hfits⟩
    · left
      rw [e.diagnostic?_of_noLine hnone]
      exact ⟨hnone, rfl⟩
    · right
      have hsome : e.diagnostic? = some ⟨line, place? e.column, severityOf e.kind, String.ofList e.message⟩ :=
        Entry.diagnostic?_eq_some.2 ⟨hfits, hpos, rfl, rfl, rfl⟩
      refine ⟨line, place? e.column, hpos, hfits, e.column_cases, ?_⟩
      rw [hsome]
      rfl

/-- The line is three, in the digits of another script; the column is too large. -/
def foreignEntry : Entry where
  file := ['a']
  line := ['٣']
  column := "4294967296".toList
  gap := []
  kind := "warning"
  lead := []
  message := ['x']
  tail := ['\r']
  file_ne := by decide
  file_plain := by decide
  line_digits := ⟨by decide, List.all_eq_true.1 (by decide)⟩
  column_digits := ⟨by decide, List.all_eq_true.1 (by decide)⟩
  gap_blank := List.forall_mem_nil _
  kind_known := by decide
  lead_blank := List.forall_mem_nil _
  message_ne := by decide
  message_trimmed := by decide
  tail_blank := List.all_eq_true.1 (by decide)

theorem diagnostics_well_formed_misfits :
    (Last FirstFrame (lines "File \"a\", line 0\nKeyError".toList) ['0'] ∧ NoLine ['0'] ∧
      scan .python "File \"a\", line 0\nKeyError" = []) ∧
    '\n' ∉ foreignEntry.text ∧ NoLine foreignEntry.line ∧ scan .cpp (String.ofList foreignEntry.text) = [] := by
  obtain ⟨-, -, -, hpython, hentry⟩ := diagnostics_well_formed
  have hlast : Last FirstFrame (lines "File \"a\", line 0\nKeyError".toList) ['0'] := by
    refine ⟨[], "File \"a\", line 0".toList, ["KeyError".toList], by decide, frame?_eq_some.1 (by decide), ?_⟩
    intro line hline
    rw [List.mem_singleton.1 hline, ← frame?_eq_none]
    decide
  have hzero : NoLine ['0'] := .inr ⟨List.all_eq_true.1 (by decide), by decide, by decide⟩
  have hsingle : '\n' ∉ foreignEntry.text := by decide
  have hforeign : NoLine foreignEntry.line := .inl (.inl ⟨'٣', by decide, by decide⟩)
  refine ⟨⟨hlast, hzero, hpython _ _ hlast hzero⟩, hsingle, hforeign, ?_⟩
  rcases hentry foreignEntry hsingle with ⟨-, hnone⟩ | ⟨line, -, hpos, hfits, -⟩
  · exact hnone
  · have hnot := hforeign.not_spellsPlace hfits
    omega

end CodeRepair.Diagnostic

import CodeRepair.Diagnostic.Scan
import CodeRepair.Proofs.Number.Digits
import CodeRepair.Proofs.Text.Pieces
import CodeRepair.Proofs.Text.Search
import CodeRepair.Proofs.Text.Trim

/-!
What is read of a compiler's output: the lines that say `file:line:column: kind: message`, in order, and nothing of any
other line.
-/
namespace CodeRepair.Diagnostic

open Text

variable {cs ds rest : List Char} {n : Nat} {d : Diagnostic}

section Places

/-- A line or column: a number up to the largest, in ASCII digits. -/
def SpellsPlace (ds : List Char) (n : Nat) : Prop := Number.Spells ds n ∧ n ≤ maxPlace

/-- Digits that are no line or column: not all are ASCII, or the number is too large. -/
def Misfit (ds : List Char) : Prop := (∃ c ∈ ds, c.isDigit = false) ∨ ∃ n, Number.Spells ds n ∧ maxPlace < n

theorem place?_eq_some : place? ds = some n ↔ SpellsPlace ds n := by
  rw [place?, Option.filter_eq_some_iff, Number.decimal?_eq_some, decide_eq_true_eq]
  exact Iff.rfl

theorem spellsPlace_or_misfit (hne : ds ≠ []) : (∃ n, SpellsPlace ds n) ∨ Misfit ds := by
  by_cases hall : ∀ c ∈ ds, c.isDigit = true
  · have hspells : Number.Spells ds (Number.ofDigits 10 (ds.filterMap Number.digitValue?)) := ⟨hall, hne, rfl⟩
    rcases Nat.lt_or_ge maxPlace (Number.ofDigits 10 (ds.filterMap Number.digitValue?)) with hlarge | hfits
    · exact .inr (.inr ⟨_, hspells, hlarge⟩)
    · exact .inl ⟨_, hspells, hfits⟩
  · simp only [not_forall, Bool.not_eq_true] at hall
    obtain ⟨c, hc, hnot⟩ := hall
    exact .inr (.inl ⟨c, hc, hnot⟩)

theorem Misfit.not_spellsPlace (h : Misfit ds) (n : Nat) : ¬ SpellsPlace ds n := by
  rintro ⟨hspells, hle⟩
  rcases h with ⟨c, hc, hnot⟩ | ⟨m, hm, hlarge⟩
  · rw [hspells.isDigit c hc] at hnot
    cases hnot
  · have hsame : m = n := hm.value.symm.trans hspells.value
    omega

theorem Misfit.place?_eq_none (h : Misfit ds) : place? ds = none := by
  rw [Option.eq_none_iff_forall_ne_some]
  intro n hn
  exact h.not_spellsPlace n (place?_eq_some.1 hn)

end Places

section Entries

def DigitRun (ds : List Char) : Prop := ds ≠ [] ∧ ∀ c ∈ ds, isDecimalDigit c = true

def kinds : List String := ["error", "fatal error", "warning"]

def severityOf (kind : String) : Severity := if kind = "warning" then .warning else .error

theorem digitsAndColon?_eq_some : digitsAndColon? cs = some (ds, rest) ↔ DigitRun ds ∧ cs = ds ++ ':' :: rest := by
  constructor
  · intro h
    rw [digitsAndColon?] at h
    split at h
    next c more rest' hdigits hrest =>
      cases h
      have hsplit := List.takeWhile_append_dropWhile (p := isDecimalDigit) (l := cs)
      rw [hrest] at hsplit
      refine ⟨⟨?_, fun c hc ↦ List.mem_takeWhile_imp hc⟩, hsplit.symm⟩
      rw [hdigits]
      exact List.cons_ne_nil _ _
    · cases h
  · rintro ⟨⟨hne, hall⟩, rfl⟩
    have hcolon : ∀ c, (':' :: rest).head? = some c → isDecimalDigit c = false := by
      intro c hc
      cases hc
      rfl
    rw [digitsAndColon?, takeWhile_stops hall hcolon, dropWhile_stops hall hcolon]
    cases ds with
    | nil => exact absurd rfl hne
    | cons c more => rfl

theorem kindAndColon?_eq_some {severity : Severity} : kindAndColon? cs = some (severity, rest) ↔
    ∃ kind ∈ kinds, severity = severityOf kind ∧ cs = kind.toList ++ ':' :: rest := by
  constructor
  · intro h
    obtain ⟨⟨kind, severity'⟩, hmem, hkind⟩ := List.exists_of_findSome?_eq_some h
    simp only at hkind
    split at hkind
    next rest' hdrop =>
      cases hkind
      have hknown : kind ∈ kinds ∧ severity = severityOf kind := by
        simp only [messageKinds, List.mem_cons, List.not_mem_nil, or_false, Prod.mk.injEq] at hmem
        rcases hmem with ⟨rfl, rfl⟩ | ⟨rfl, rfl⟩ | ⟨rfl, rfl⟩ <;> decide
      exact ⟨kind, hknown.1, hknown.2, dropPattern?_eq_some hdrop⟩
    · cases hkind
  · rintro ⟨kind, hkind, rfl, rfl⟩
    simp only [kinds, List.mem_cons, List.not_mem_nil, or_false] at hkind
    rcases hkind with rfl | rfl | rfl <;> rfl

/-- A line with a message in it: a file, a line, a column, a kind and what is said, each with a colon before the next.
Blanks may stand before the kind and around what is said. -/
structure Entry where
  file : List Char
  line : List Char
  column : List Char
  gap : List Char
  kind : String
  lead : List Char
  message : List Char
  tail : List Char
  file_ne : file ≠ []
  file_plain : ':' ∉ file
  line_digits : DigitRun line
  column_digits : DigitRun column
  gap_blank : ∀ c ∈ gap, isBlank c = true
  kind_known : kind ∈ kinds
  lead_blank : ∀ c ∈ lead, isBlank c = true
  message_ne : message ≠ []
  message_trimmed : trim message = message
  tail_blank : ∀ c ∈ tail, isBlank c = true

namespace Entry

def text (e : Entry) : List Char :=
  e.file ++ ':' :: (e.line ++ ':' :: (e.column ++ ':' ::
    (e.gap ++ (e.kind.toList ++ ':' :: (e.lead ++ (e.message ++ e.tail))))))

/-- What an entry says, unless its line cannot be one. -/
def diagnostic? (e : Entry) : Option Diagnostic :=
  ((place? e.line).filter (0 < ·)).map fun line ↦
    ⟨line, place? e.column, severityOf e.kind, String.ofList e.message⟩

variable (e : Entry)

theorem trimEnd_text : trimEnd e.text =
    e.file ++ ':' :: (e.line ++ ':' :: (e.column ++ ':' ::
      (e.gap ++ (e.kind.toList ++ ':' :: (e.lead ++ e.message))))) := by
  have hsplit : e.text = (e.file ++ ':' :: (e.line ++ ':' :: (e.column ++ ':' ::
      (e.gap ++ (e.kind.toList ++ ':' :: e.lead))))) ++ (e.message ++ e.tail) := by
    simp [text]
  rw [hsplit, trimEnd_before e.message_ne e.message_trimmed e.tail_blank]
  simp

theorem trimStart_kind (rest : List Char) :
    trimStart (e.gap ++ (e.kind.toList ++ ':' :: rest)) = e.kind.toList ++ ':' :: rest := by
  have hhead : ∀ c, (e.kind.toList ++ ':' :: rest).head? = some c → isBlank c = false := by
    have hkind := e.kind_known
    simp only [kinds, List.mem_cons, List.not_mem_nil, or_false] at hkind
    intro c hc
    rcases hkind with h | h | h <;>
    · rw [h] at hc
      cases hc
      rfl
  rw [trimStart, dropWhile_stops e.gap_blank hhead]

theorem ofCompilerLine?_text : ofCompilerLine? e.text = e.diagnostic? := by
  have hfile : e.file.isEmpty = false := by simpa using e.file_ne
  have hmessage : e.message.isEmpty = false := by simpa using e.message_ne
  rw [ofCompilerLine?, trimEnd_text]
  simp only [takeWhile_ne_append e.file_plain, dropWhile_ne_append e.file_plain, hfile,
    digitsAndColon?_eq_some.2 ⟨e.line_digits, rfl⟩, digitsAndColon?_eq_some.2 ⟨e.column_digits, rfl⟩, trimStart_kind,
    kindAndColon?_eq_some.2 ⟨e.kind, e.kind_known, rfl, rfl⟩, trim_after e.message_ne e.message_trimmed e.lead_blank,
    hmessage, Option.bind_eq_bind, Option.bind_some, Bool.false_eq_true, if_false]
  rw [diagnostic?]
  cases (place? e.line).filter (0 < ·) <;> rfl

end Entry

theorem exists_entry (h : ofCompilerLine? cs = some d) : ∃ e : Entry, e.text = cs := by
  obtain ⟨tail, htail, htailblank⟩ := trimEnd_blanks cs
  rw [ofCompilerLine?] at h
  generalize trimEnd cs = line at h htail
  dsimp only at h
  split at h
  · cases h
  next hfile =>
    split at h
    · cases h
    next colon rest hcolon =>
      obtain ⟨hline, hplain⟩ := cut_at hcolon
      generalize line.takeWhile (· ≠ ':') = file at hfile hline hplain
      simp only [Option.bind_eq_bind, Option.bind_eq_some_iff] at h
      obtain ⟨⟨digits, afterLine⟩, hdigits, ⟨digits', afterColumn⟩, hdigits', ⟨severity, said⟩, hkind, h⟩ := h
      obtain ⟨hrun, rfl⟩ := digitsAndColon?_eq_some.1 hdigits
      obtain ⟨hrun', rfl⟩ := digitsAndColon?_eq_some.1 hdigits'
      obtain ⟨kind, hknown, -, hstart⟩ := kindAndColon?_eq_some.1 hkind
      split at h
      · cases h
      next hsaid =>
        obtain ⟨gap, hgap, hgapblank⟩ := trimStart_blanks afterColumn
        obtain ⟨lead, after, hwhole, hleadblank, hafterblank⟩ := trim_blanks said
        have hcolumn : afterColumn = gap ++ (kind.toList ++ ':' :: said) := hgap.trans (congrArg (gap ++ ·) hstart)
        refine ⟨⟨file, digits, digits', gap, kind, lead, trim said, after ++ tail, by simpa using hfile, hplain, hrun,
          hrun', hgapblank, hknown, hleadblank, by simpa using hsaid, trim_trim said, ?_⟩, ?_⟩
        · intro c hc
          exact (List.mem_append.1 hc).elim (hafterblank c) (htailblank c)
        · rw [htail, hline, hcolumn]
          conv_rhs => rw [hwhole]
          simp [Entry.text]

end Entries

section Lines

theorem ofCompilerLine?_of_blank (h : ∀ c ∈ cs, isBlank c = true) : ofCompilerLine? cs = none := by
  rw [ofCompilerLine?, trimEnd_of_blank h]
  rfl

theorem ofCompilerLine?_ended (cs : List Char) : ofCompilerLine? (cs ++ ['\r']) = ofCompilerLine? cs := by
  have hend : trimEnd (cs ++ ['\r']) = trimEnd cs := List.rdropWhile_concat_pos isBlank cs '\r' rfl
  rw [ofCompilerLine?, ofCompilerLine?, hend]

theorem scan_cpp_lines (text : String) : scan .cpp text = (lines text.toList).filterMap ofCompilerLine? := by
  rw [scan]
  split
  next hblank =>
    symm
    rw [List.filterMap_eq_nil_iff]
    intro line hline
    apply ofCompilerLine?_of_blank
    intro c hc
    exact List.all_eq_true.1 hblank c (lines_subset hline hc)
  · rfl

theorem scan_cpp (text : String) : scan .cpp text = (splitAt (· = '\n') text.toList).filterMap ofCompilerLine? := by
  rw [scan_cpp_lines]
  exact filterMap_lines (ofCompilerLine?_of_blank nofun) ofCompilerLine?_ended _

theorem scan_cpp_append (a b : String) : scan .cpp (a ++ "\n" ++ b) = scan .cpp a ++ scan .cpp b := by
  have htext : (a ++ "\n" ++ b).toList = a.toList ++ '\n' :: b.toList := by simp
  rw [scan_cpp, scan_cpp, scan_cpp, htext, splitAt_append (by simp), List.filterMap_append]

theorem scan_cpp_intercalate (texts : List String) :
    scan .cpp ("\n".intercalate texts) = texts.flatMap (scan .cpp) := by
  induction texts with
  | nil => rfl
  | cons a texts ih =>
    cases texts with
    | nil => simp
    | cons b texts =>
      rw [String.intercalate_cons_cons, scan_cpp_append, ih]
      exact List.flatMap_cons.symm

theorem scan_cpp_line {line : String} (h : '\n' ∉ line.toList) :
    scan .cpp line = (ofCompilerLine? line.toList).toList := by
  have hpiece : splitAt (· = '\n') line.toList = [line.toList] := by
    apply splitAt_of_none
    intro c hc
    rw [decide_eq_false_iff_not]
    rintro rfl
    exact h hc
  rw [scan_cpp, hpiece]
  cases hline : ofCompilerLine? line.toList <;> simp [hline]

end Lines

section Messages

theorem isDecimalDigit_of_isDigit {c : Char} (h : c.isDigit = true) : isDecimalDigit c = true := by
  have hascii : c.toNat < 0x80 := by
    have hle := (Number.isDigit_iff.1 h).2
    have : c.toNat ≤ 0x39 := hle
    omega
  rw [isDecimalDigit, if_pos hascii, h]

theorem digitRun_decimalDigits (n : Nat) : DigitRun (Number.decimalDigits n) :=
  ⟨(Number.spells_decimalDigits n).nonempty, fun c hc ↦
    isDecimalDigit_of_isDigit ((Number.spells_decimalDigits n).isDigit c hc)⟩

/-- A message with a place, as a compiler has it. -/
structure CompilerMessage where
  file : String
  line : Nat
  column : Nat
  kind : String
  message : String
  file_ne : file ≠ ""
  file_plain : ':' ∉ file.toList
  file_single : '\n' ∉ file.toList
  line_pos : 0 < line
  line_le : line ≤ maxPlace
  column_le : column ≤ maxPlace
  kind_known : kind ∈ kinds
  message_ne : message ≠ ""
  message_single : '\n' ∉ message.toList
  message_trimmed : trimmed message = message

namespace CompilerMessage

variable (m : CompilerMessage)

def text : String :=
  m.file ++ ":" ++ String.ofList (Number.decimalDigits m.line) ++ ":" ++
    String.ofList (Number.decimalDigits m.column) ++ ": " ++ m.kind ++ ": " ++ m.message

def diagnostic : Diagnostic := ⟨m.line, some m.column, severityOf m.kind, m.message⟩

def entry (tail : List Char) (htail : ∀ c ∈ tail, isBlank c = true) : Entry where
  file := m.file.toList
  line := Number.decimalDigits m.line
  column := Number.decimalDigits m.column
  gap := [' ']
  kind := m.kind
  lead := [' ']
  message := m.message.toList
  tail := tail
  file_ne := by simpa using m.file_ne
  file_plain := m.file_plain
  line_digits := digitRun_decimalDigits _
  column_digits := digitRun_decimalDigits _
  gap_blank := by simp [isBlank]
  kind_known := m.kind_known
  lead_blank := by simp [isBlank]
  message_ne := by simpa using m.message_ne
  message_trimmed := by
    have h := congrArg String.toList m.message_trimmed
    rwa [trimmed, String.toList_ofList] at h
  tail_blank := htail

variable {tail : List Char} (htail : ∀ c ∈ tail, isBlank c = true)

theorem entry_text : (m.entry tail htail).text = m.text.toList ++ tail := by
  simp [Entry.text, text, entry]

theorem entry_diagnostic? : (m.entry tail htail).diagnostic? = some m.diagnostic := by
  have hline : place? (Number.decimalDigits m.line) = some m.line :=
    place?_eq_some.2 ⟨Number.spells_decimalDigits _, m.line_le⟩
  have hcolumn : place? (Number.decimalDigits m.column) = some m.column :=
    place?_eq_some.2 ⟨Number.spells_decimalDigits _, m.column_le⟩
  simp only [Entry.diagnostic?, entry, hline, hcolumn, Option.filter_some, decide_eq_true m.line_pos, if_true,
    Option.map_some, String.ofList_toList]
  rfl

theorem newline_not_mem_digits (n : Nat) : '\n' ∉ Number.decimalDigits n := by
  intro hmem
  have hdigit := (Number.spells_decimalDigits n).isDigit _ hmem
  cases hdigit

theorem newline_not_mem_text : '\n' ∉ m.text.toList := by
  have hkind : '\n' ∉ m.kind.toList := by
    have hknown := m.kind_known
    simp only [kinds, List.mem_cons, List.not_mem_nil, or_false] at hknown
    rcases hknown with h | h | h <;> rw [h] <;> decide
  simp [text, m.file_single, newline_not_mem_digits, hkind, m.message_single]

end CompilerMessage

/-- A line of a compiler's output: a message, after which there may be blanks or a carriage return, or anything else
that is no entry. -/
inductive Row
  | message (m : CompilerMessage) (tail : String) (blank : ∀ c ∈ tail.toList, isBlank c = true ∧ c ≠ '\n')
  | other (line : String) (single : '\n' ∉ line.toList) (no_entry : ∀ e : Entry, e.text ≠ line.toList)

namespace Row

def text : Row → String
  | message m tail _ => m.text ++ tail
  | other line _ _ => line

def message? : Row → Option CompilerMessage
  | message m _ _ => some m
  | other _ _ _ => none

theorem scan_text (row : Row) : scan .cpp row.text = (row.message?.map CompilerMessage.diagnostic).toList := by
  cases row with
  | message m tail blank =>
    have htail : ∀ c ∈ tail.toList, isBlank c = true := fun c hc ↦ (blank c hc).1
    have hsingle : '\n' ∉ (m.text ++ tail).toList := by
      rw [String.toList_append, List.mem_append]
      rintro (hmem | hmem)
      · exact m.newline_not_mem_text hmem
      · exact (blank _ hmem).2 rfl
    rw [text, scan_cpp_line hsingle, String.toList_append, ← m.entry_text htail, Entry.ofCompilerLine?_text,
      m.entry_diagnostic?]
    rfl
  | other line single no_entry =>
    have hnone : ofCompilerLine? line.toList = none := by
      rw [Option.eq_none_iff_forall_ne_some]
      intro d hd
      obtain ⟨e, he⟩ := exists_entry hd
      exact no_entry e he
    rw [text, scan_cpp_line single, hnone]
    rfl

end Row

/-- A compiler's output gives its messages in order, whatever other lines stand between them. Of two texts with a line
feed between them each gives its own. -/
theorem compiler_messages_read :
    (∀ rows : List Row, scan .cpp ("\n".intercalate (rows.map Row.text)) =
      (rows.filterMap Row.message?).map CompilerMessage.diagnostic) ∧
    ∀ a b : String, scan .cpp (a ++ "\n" ++ b) = scan .cpp a ++ scan .cpp b := by
  refine ⟨?_, scan_cpp_append⟩
  intro rows
  rw [scan_cpp_intercalate]
  induction rows with
  | nil => rfl
  | cons row rows ih =>
    rw [List.map_cons, List.flatMap_cons, Row.scan_text, ih]
    cases hrow : row.message? with
    | none => simp [hrow]
    | some m => simp [hrow]

/-- A message whose text reads like another. -/
def misleading : CompilerMessage where
  file := "my file.cpp"
  line := 4
  column := 18
  kind := "error"
  message := "no error: ok"
  file_ne := by decide
  file_plain := by decide
  file_single := by decide
  line_pos := by decide
  line_le := by decide
  column_le := by decide
  kind_known := by decide
  message_ne := by decide
  message_single := by decide
  message_trimmed := by decide +kernel

theorem no_entry_of_no_colon {line : String} (h : ':' ∉ line.toList) (e : Entry) : e.text ≠ line.toList := by
  intro htext
  rw [← htext] at h
  simp [Entry.text] at h

theorem compiler_messages_read_misleading :
    scan .cpp "my file.cpp:4:18: error: no error: ok\r\ncompilation terminated.\n" =
      [⟨4, some 18, .error, "no error: ok"⟩] := by
  have hblank : ∀ c ∈ "\r".toList, isBlank c = true ∧ c ≠ '\n' := by
    intro c hc
    rw [List.mem_singleton.1 hc]
    decide
  have hread := compiler_messages_read.1 [.message misleading "\r" hblank,
    .other "compilation terminated." (by decide) (no_entry_of_no_colon (by decide)),
    .other "" (by decide) (no_entry_of_no_colon (by decide))]
  have htext : "\n".intercalate [misleading.text ++ "\r", "compilation terminated.", ""] =
      "my file.cpp:4:18: error: no error: ok\r\ncompilation terminated.\n" := by decide +kernel
  rw [← htext]
  exact hread

/-- Colons and the word `error` are part of a message, and carriage returns end lines. -/
example : scan .cpp "my file.cpp:4:18: error: no error: ok\r\nmake: *** [all]\r\nb.h:07:0:warning:x" =
    [⟨4, some 18, .error, "no error: ok"⟩, ⟨7, some 0, .warning, "x"⟩] := by decide +kernel

end Messages

end CodeRepair.Diagnostic

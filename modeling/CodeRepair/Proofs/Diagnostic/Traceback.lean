import CodeRepair.Diagnostic.Scan
import CodeRepair.Proofs.Text.Pieces
import CodeRepair.Proofs.Text.Search
import Mathlib.Data.List.Induction
import Mathlib.Data.List.TakeWhile

/-!
What a Python traceback is read as. The line is that of the last frame. The message is that of the last exception, which
follows the frame only if any exception does.
-/
namespace CodeRepair.Diagnostic

open Text

/-- A frame starts here, and the digits of its line are these. -/
def FrameAt (cs digits : List Char) : Prop :=
  ∃ path rest, cs = "File \"".toList ++ (path ++ ("\", line ".toList ++ (digits ++ rest))) ∧ '"' ∉ path ∧ digits ≠ [] ∧
    (∀ c ∈ digits, isDecimalDigit c = true) ∧ ∀ c, rest.head? = some c → isDecimalDigit c = false

/-- The leftmost frame in a line has these digits. -/
def FirstFrame (line digits : List Char) : Prop :=
  ∃ front cs, line = front ++ cs ∧ FrameAt cs digits ∧
    ∀ front' cs' digits', line = front' ++ cs' → FrameAt cs' digits' → front.length ≤ front'.length

/-- The name of an exception: it ends in one of the known ways, and that is not all of it. -/
def ExceptionName (name : List Char) : Prop :=
  ∃ first middle ending, name = first :: (middle ++ ending.toList) ∧ (first.isAlpha = true ∨ first = '_') ∧
    (∀ c ∈ middle, isNameChar c = true) ∧ ending ∈ exceptionEndings

/-- The name of an exception alone, or with a colon and a detail, which may be empty. -/
inductive ExceptionText : List Char → String → Prop
  | bare {name : List Char} : ExceptionName name → ExceptionText name (String.ofList name)
  | empty {name blanks : List Char} : ExceptionName name → (∀ c ∈ blanks, isBlank c = true) →
    ExceptionText (name ++ ':' :: blanks) (String.ofList name)
  | detailed {name blanks detail : List Char} {c : Char} : ExceptionName name → (∀ c ∈ blanks, isBlank c = true) →
    isBlank c = false →
    ExceptionText (name ++ ':' :: (blanks ++ c :: detail)) (String.ofList (name ++ ':' :: ' ' :: c :: detail))

/-- A line without a frame that is an exception with this message. -/
def Raises (line : List Char) (message : String) : Prop :=
  (∀ digits, ¬ FirstFrame line digits) ∧ ExceptionText (trim line) message

/-- The last item that is related to anything is related to `b`. -/
def Last {α β : Type} (R : α → β → Prop) (xs : List α) (b : β) : Prop :=
  ∃ before x after, xs = before ++ x :: after ∧ R x b ∧ ∀ y ∈ after, ∀ b', ¬ R y b'

variable {cs line digits name : List Char} {message : String}

section Frames

theorem frameHere?_eq_some : frameHere? cs = some digits ↔ FrameAt cs digits := by
  constructor
  · intro h
    simp only [frameHere?, bind, Option.bind_eq_some_iff] at h
    obtain ⟨opened, hopened, closed, hclosed, h⟩ := h
    split at h
    · cases h
    next hsome =>
      cases h
      refine ⟨opened.takeWhile (· ≠ '"'), closed.dropWhile isDecimalDigit, ?_, ?_, ?_, ?_, ?_⟩
      · rw [List.takeWhile_append_dropWhile, ← dropPattern?_eq_some hclosed, List.takeWhile_append_dropWhile,
          ← dropPattern?_eq_some hopened]
      · intro hquote
        simpa using List.mem_takeWhile_imp hquote
      · simpa using hsome
      · exact fun c hc ↦ List.mem_takeWhile_imp hc
      · exact fun c hc ↦ dropWhile_head hc
  · rintro ⟨path, rest, rfl, hpath, hsome, hall, hrest⟩
    have hquote : (path ++ ("\", line ".toList ++ (digits ++ rest))).dropWhile (· ≠ '"') =
        "\", line ".toList ++ (digits ++ rest) := dropWhile_ne_append hpath _
    simp only [frameHere?, bind, Option.bind, dropPattern?_append, hquote, takeWhile_stops hall hrest,
      List.isEmpty_eq_false_iff.2 hsome]
    rfl

theorem not_frameAt_nil : ¬ FrameAt [] digits := by
  rintro ⟨path, rest, h, -⟩
  cases h

theorem firstFrame_cons {x : Char} : FirstFrame (x :: cs) digits ↔
    FrameAt (x :: cs) digits ∨ (∀ digits', ¬ FrameAt (x :: cs) digits') ∧ FirstFrame cs digits := by
  constructor
  · rintro ⟨front, here, hsplit, hframe, hfirst⟩
    cases front with
    | nil =>
      rw [List.nil_append] at hsplit
      exact .inl (hsplit ▸ hframe)
    | cons y front =>
      obtain ⟨rfl, rfl⟩ := List.cons.inj hsplit
      refine .inr ⟨?_, front, here, rfl, hframe, ?_⟩
      · intro digits' hframe'
        have := hfirst [] _ digits' rfl hframe'
        simp at this
      · intro front' here' digits' hsplit' hframe'
        exact Nat.le_of_succ_le_succ (hfirst (x :: front') here' digits' (congrArg _ hsplit') hframe')
  · rintro (hframe | ⟨hnone, front, here, rfl, hframe, hfirst⟩)
    · exact ⟨[], x :: cs, rfl, hframe, fun _ _ _ _ _ ↦ Nat.zero_le _⟩
    · refine ⟨x :: front, here, rfl, hframe, ?_⟩
      intro front' here' digits' hsplit' hframe'
      cases front' with
      | nil =>
        rw [List.nil_append] at hsplit'
        exact absurd (hsplit' ▸ hframe') (hnone digits')
      | cons y front' =>
        obtain ⟨-, htail⟩ := List.cons.inj hsplit'
        exact Nat.succ_le_succ (hfirst front' here' digits' htail hframe')

theorem frame?_eq_some : frame? line = some digits ↔ FirstFrame line digits := by
  induction line with
  | nil =>
    refine iff_of_false (by simp [frame?]) ?_
    rintro ⟨front, here, hsplit, hframe, -⟩
    rw [(List.append_eq_nil_iff.1 hsplit.symm).2] at hframe
    exact not_frameAt_nil hframe
  | cons x cs ih =>
    rw [firstFrame_cons, ← ih, frame?]
    cases hhere : frameHere? (x :: cs) with
    | some digits' => simp [← frameHere?_eq_some, hhere]
    | none => simp [← frameHere?_eq_some, hhere]

theorem frame?_eq_none : frame? line = none ↔ ∀ digits, ¬ FirstFrame line digits := by
  simp only [← frame?_eq_some, Option.eq_none_iff_forall_ne_some]

theorem FirstFrame.starts (h : FirstFrame line digits) : 'F' ∈ line := by
  obtain ⟨front, _, rfl, ⟨path, rest, rfl, -⟩, -⟩ := h
  simp

end Frames

section Exceptions

theorem isNameChar_of_letter {c : Char} (h : c.isAlpha = true ∨ c = '_') : isNameChar c = true := by
  rcases h with h | rfl
  · simp [isNameChar, Char.isAlphanum, h]
  · rfl

theorem ExceptionName.all_name (h : ExceptionName name) : ∀ c ∈ name, isNameChar c = true := by
  obtain ⟨first, middle, ending, rfl, hfirst, hmiddle, hending⟩ := h
  have hall : (exceptionEndings.all fun ending ↦ ending.toList.all isNameChar) = true := by rfl
  simp only [List.mem_cons, List.mem_append]
  rintro c (rfl | hc | hc)
  · exact isNameChar_of_letter hfirst
  · exact hmiddle c hc
  · exact List.all_eq_true.1 (List.all_eq_true.1 hall ending hending) c hc

theorem endsWith_iff (ending : List Char) :
    ending.length < name.length ∧ name.drop (name.length - ending.length) = ending ↔
      ∃ first middle, name = first :: (middle ++ ending) := by
  constructor
  · rintro ⟨hlength, hdrop⟩
    have hsplit := List.take_append_drop (name.length - ending.length) name
    rw [hdrop] at hsplit
    cases hfront : name.take (name.length - ending.length) with
    | nil =>
      rw [hfront, List.nil_append] at hsplit
      rw [hsplit] at hlength
      omega
    | cons first middle =>
      rw [hfront] at hsplit
      exact ⟨first, middle, hsplit.symm⟩
  · rintro ⟨first, middle, rfl⟩
    have hcount : (first :: (middle ++ ending)).length - ending.length = (first :: middle).length := by
      simp only [List.length_cons, List.length_append]
      omega
    refine ⟨by simp only [List.length_cons, List.length_append]; omega, ?_⟩
    rw [hcount, ← List.cons_append, List.drop_left]

theorem isExceptionName_iff : isExceptionName name = true ↔
    ∃ ending ∈ exceptionEndings, ∃ first middle, name = first :: (middle ++ ending.toList) := by
  simp only [isExceptionName, List.any_eq_true, Bool.and_eq_true, decide_eq_true_eq, ← endsWith_iff,
    String.length_toList]

theorem exceptionName_iff : ExceptionName name ↔
    (∀ c ∈ name, isNameChar c = true) ∧ (∃ first ∈ name.head?, first.isAlpha = true ∨ first = '_') ∧
      isExceptionName name = true := by
  rw [isExceptionName_iff]
  constructor
  · intro h
    refine ⟨h.all_name, ?_⟩
    obtain ⟨first, middle, ending, rfl, hfirst, -, hending⟩ := h
    exact ⟨⟨first, rfl, hfirst⟩, ending, hending, first, middle, rfl⟩
  · rintro ⟨hall, ⟨first, hhead, hfirst⟩, ending, hending, first', middle, rfl⟩
    cases hhead
    refine ⟨first, middle, ending, rfl, hfirst, ?_, hending⟩
    intro c hc
    exact hall c (List.mem_cons_of_mem _ (List.mem_append_left _ hc))

def messageOf (name : List Char) : List Char → Option String
  | [] => some (String.ofList name)
  | ':' :: rest =>
    let detail := trimStart rest
    some (String.ofList (if detail.isEmpty then name else name ++ ':' :: ' ' :: detail))
  | _ => none

theorem exception?_eq_some_iff : exception? cs = some message ↔
    ExceptionName (cs.takeWhile isNameChar) ∧
      messageOf (cs.takeWhile isNameChar) (cs.dropWhile isNameChar) = some message := by
  have hall : ∀ c ∈ cs.takeWhile isNameChar, isNameChar c = true := fun c hc ↦ List.mem_takeWhile_imp hc
  rw [exceptionName_iff, exception?]
  cases hname : cs.takeWhile isNameChar with
  | nil => simp
  | cons first rest =>
    rw [hname] at hall
    have hguard : (if (first.isAlpha || decide (first = '_')) && isExceptionName (first :: rest) then
        messageOf (first :: rest) (cs.dropWhile isNameChar) else none) = some message ↔
        (∃ c ∈ (first :: rest).head?, c.isAlpha = true ∨ c = '_') ∧ isExceptionName (first :: rest) = true ∧
          messageOf (first :: rest) (cs.dropWhile isNameChar) = some message := by
      simp [and_assoc]
    rw [and_iff_right hall, and_assoc]
    exact hguard

theorem messageOf_sound {rest : List Char} (hname : ExceptionName name) (h : messageOf name rest = some message) :
    ExceptionText (name ++ rest) message := by
  unfold messageOf at h
  split at h
  · cases h
    rw [List.append_nil]
    exact .bare hname
  next rest =>
    have hblanks : ∀ c ∈ rest.takeWhile isBlank, isBlank c = true := fun c hc ↦ List.mem_takeWhile_imp hc
    rw [← List.takeWhile_append_dropWhile (p := isBlank) (l := rest)]
    cases hdetail : rest.dropWhile isBlank with
    | nil =>
      rw [trimStart, hdetail] at h
      cases h
      rw [List.append_nil]
      exact .empty hname hblanks
    | cons c detail =>
      rw [trimStart, hdetail] at h
      cases h
      exact .detailed hname hblanks (dropWhile_head (by rw [hdetail]; rfl))
  · cases h

theorem ExceptionText.messageOf_eq (h : ExceptionText cs message) :
    ∃ name rest, cs = name ++ rest ∧ ExceptionName name ∧ (∀ c, rest.head? = some c → isNameChar c = false) ∧
      messageOf name rest = some message := by
  cases h with
  | bare hname => exact ⟨cs, [], (List.append_nil _).symm, hname, by simp, rfl⟩
  | @empty name blanks hname hblanks =>
    refine ⟨name, ':' :: blanks, rfl, hname, by simp [isNameChar, Char.isAlphanum], ?_⟩
    rw [messageOf, trimStart, List.dropWhile_eq_nil_iff.2 hblanks]
    rfl
  | @detailed name blanks detail c hname hblanks hc =>
    refine ⟨name, ':' :: (blanks ++ c :: detail), rfl, hname, by simp [isNameChar, Char.isAlphanum], ?_⟩
    rw [messageOf, trimStart, dropWhile_stops hblanks (by simpa using hc)]
    rfl

theorem exception?_eq_some : exception? cs = some message ↔ ExceptionText cs message := by
  rw [exception?_eq_some_iff]
  constructor
  · rintro ⟨hname, hmessage⟩
    rw [← List.takeWhile_append_dropWhile (p := isNameChar) (l := cs)]
    exact messageOf_sound hname hmessage
  · intro h
    obtain ⟨name, rest, rfl, hname, hrest, hmessage⟩ := h.messageOf_eq
    rw [takeWhile_stops hname.all_name hrest, dropWhile_stops hname.all_name hrest]
    exact ⟨hname, hmessage⟩

end Exceptions

section Folding

variable {α β : Type} {R : α → β → Prop} {xs ys : List α} {x : α} {b : β}

theorem not_last_nil : ¬ Last R [] b := by
  rintro ⟨before, x, after, h, -⟩
  cases before <;> cases h

theorem last_cons : Last R (x :: xs) b ↔ Last R xs b ∨ (∀ y ∈ xs, ∀ b', ¬ R y b') ∧ R x b := by
  constructor
  · rintro ⟨before, y, after, hsplit, hy, hafter⟩
    cases before with
    | nil =>
      obtain ⟨rfl, rfl⟩ := List.cons.inj hsplit
      exact .inr ⟨hafter, hy⟩
    | cons z before => exact .inl ⟨before, y, after, (List.cons.inj hsplit).2, hy, hafter⟩
  · rintro (⟨before, y, after, rfl, hy, hafter⟩ | ⟨hxs, hx⟩)
    · exact ⟨x :: before, y, after, rfl, hy, hafter⟩
    · exact ⟨[], x, xs, rfl, hx, hxs⟩

theorem last_append : Last R (xs ++ ys) b ↔ Last R ys b ∨ (∀ y ∈ ys, ∀ b', ¬ R y b') ∧ Last R xs b := by
  induction xs with
  | nil => simp [not_last_nil]
  | cons x xs ih =>
    simp only [List.cons_append, last_cons, ih, List.mem_append]
    constructor
    · rintro ((hys | ⟨hys, hxs⟩) | ⟨hall, hx⟩)
      · exact .inl hys
      · exact .inr ⟨hys, .inl hxs⟩
      · exact .inr ⟨fun y hy ↦ hall y (.inr hy), .inr ⟨fun y hy ↦ hall y (.inl hy), hx⟩⟩
    · rintro (hys | ⟨hys, hxs | ⟨hxs, hx⟩⟩)
      · exact .inl (.inl hys)
      · exact .inl (.inr ⟨hys, hxs⟩)
      · exact .inr ⟨fun y hy ↦ hy.elim (hxs y) (hys y), hx⟩

theorem last_concat : Last R (xs ++ [x]) b ↔ R x b ∨ (∀ b', ¬ R x b') ∧ Last R xs b := by
  rw [last_append, last_cons]
  simp [not_last_nil]

theorem step_line (t : Traceback) (line : List Char) :
    (t.step line).line = (frame? line).elim t.line place? := by
  rw [Traceback.step]
  cases frame? line with
  | some digits => rfl
  | none => cases exception? (trim line) <;> rfl

theorem step_message (t : Traceback) (line : List Char) :
    (t.step line).message = some message ↔
      Raises line message ∨ (∀ message', ¬ Raises line message') ∧ t.message = some message := by
  simp only [Raises, ← frame?_eq_none, ← exception?_eq_some]
  rw [Traceback.step]
  cases frame? line with
  | some digits => simp
  | none => cases exception? (trim line) <;> simp

theorem foldl_line (lines : List (List Char)) {n : Nat} :
    (lines.foldl Traceback.step ⟨none, none⟩).line = some n ↔
      ∃ digits, Last FirstFrame lines digits ∧ place? digits = some n := by
  induction lines using List.reverseRecOn with
  | nil => simp [not_last_nil]
  | append_singleton lines line ih =>
    rw [List.foldl_append, List.foldl_cons, List.foldl_nil, step_line]
    simp only [last_concat, ← frame?_eq_some]
    cases hframe : frame? line with
    | some digits => simp
    | none => simpa using ih

theorem foldl_message (lines : List (List Char)) :
    (lines.foldl Traceback.step ⟨none, none⟩).message = some message ↔ Last Raises lines message := by
  induction lines using List.reverseRecOn with
  | nil => simp [not_last_nil]
  | append_singleton lines line ih =>
    rw [List.foldl_append, List.foldl_cons, List.foldl_nil, step_message, last_concat, ih]

end Folding

section Readings

variable {d : Diagnostic}

theorem mem_ofTraceback (text : List Char) : d ∈ ofTraceback text ↔
    (∃ digits, Last FirstFrame (lines text) digits ∧ place? digits = some d.line) ∧ Last Raises (lines text) d.message ∧
      0 < d.line ∧ d.column = none ∧ d.severity = .error := by
  rw [← foldl_line, ← foldl_message, ofTraceback]
  obtain ⟨line, column, severity, message⟩ := d
  obtain ⟨line?, message?⟩ := (lines text).foldl Traceback.step ⟨none, none⟩
  cases line? with
  | none => simp
  | some line' =>
    cases message? with
    | none => simp
    | some message' =>
      simp only [Option.some.injEq]
      split
      next hpositive =>
        rw [List.mem_singleton, Diagnostic.mk.injEq]
        constructor
        · rintro ⟨rfl, rfl, rfl, rfl⟩
          exact ⟨rfl, rfl, hpositive, rfl, rfl⟩
        · rintro ⟨rfl, rfl, -, rfl, rfl⟩
          exact ⟨rfl, rfl, rfl, rfl⟩
      next hzero =>
        refine iff_of_false List.not_mem_nil ?_
        rintro ⟨rfl, -, hpositive, -⟩
        exact hzero hpositive

theorem length_ofTraceback_le (text : List Char) : (ofTraceback text).length ≤ 1 := by
  rw [ofTraceback]
  split
  · split <;> simp
  · simp

theorem scan_python (text : String) : scan .python text = ofTraceback text.toList := by
  rw [scan]
  split
  next hblank =>
    symm
    rw [List.eq_nil_iff_forall_not_mem]
    intro d hd
    obtain ⟨⟨digits, ⟨before, frame, after, hsplit, hframe, -⟩, -⟩, -⟩ := (mem_ofTraceback _).1 hd
    have hmem : 'F' ∈ text.toList := lines_subset (by rw [hsplit]; simp) hframe.starts
    have hF : isBlank 'F' = true := List.all_eq_true.1 hblank _ hmem
    exact absurd hF (by decide)
  · rfl

/-- A Python text gives at most one diagnostic. Its line is that of the first frame in the last line with a frame. Its
message is that of the last exception below; if there is none below, it is that of the last exception above, which
has nothing to do with this frame. -/
theorem mem_scan_python (text : String) : (scan .python text).length ≤ 1 ∧ ∀ d, d ∈ scan .python text ↔
    ∃ before frame after digits, lines text.toList = before ++ frame :: after ∧ FirstFrame frame digits ∧
      (∀ line ∈ after, ∀ digits', ¬ FirstFrame line digits') ∧ place? digits = some d.line ∧ 0 < d.line ∧
      d.column = none ∧ d.severity = .error ∧
      (Last Raises after d.message ∨
        (∀ line ∈ after, ∀ message, ¬ Raises line message) ∧ Last Raises before d.message) := by
  rw [scan_python]
  refine ⟨length_ofTraceback_le _, ?_⟩
  intro d
  rw [mem_ofTraceback]
  have hmessage {before after : List (List Char)} {frame digits : List Char} (hframe : FirstFrame frame digits) :
      Last Raises (before ++ frame :: after) d.message ↔ Last Raises after d.message ∨
        (∀ line ∈ after, ∀ message, ¬ Raises line message) ∧ Last Raises before d.message := by
    have hnot (message : String) : ¬ Raises frame message := fun h ↦ h.1 digits hframe
    rw [last_append, last_cons]
    simp [hnot]
  constructor
  · rintro ⟨⟨digits, ⟨before, frame, after, hsplit, hframe, hafter⟩, hline⟩, hlast, hplace, hcolumn, hseverity⟩
    rw [hsplit, hmessage hframe] at hlast
    exact ⟨before, frame, after, digits, hsplit, hframe, hafter, hline, hplace, hcolumn, hseverity, hlast⟩
  · rintro ⟨before, frame, after, digits, hsplit, hframe, hafter, hline, hplace, hcolumn, hseverity, hlast⟩
    refine ⟨⟨digits, ⟨before, frame, after, hsplit, hframe, hafter⟩, hline⟩, ?_, hplace, hcolumn, hseverity⟩
    rw [hsplit]
    exact (hmessage hframe).2 hlast

/-- The exception of an earlier traceback is told with the frame of a later one, whose own has no usual name. -/
example : scan .python
    "  File \"a.py\", line 2, in f\nValueError: boom\n  File \"a.py\", line 4, in <module>\nStopIteration\n" =
    [⟨4, none, .error, "ValueError: boom"⟩] := by decide +kernel

end Readings

end CodeRepair.Diagnostic

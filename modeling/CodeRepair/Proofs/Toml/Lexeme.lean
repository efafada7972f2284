import CodeRepair.Proofs.Number.Digits
import CodeRepair.Toml.Lexeme
import CodeRepair.Toml.Writer
import Mathlib.Data.List.Basic

/-!
Strings and whole numbers of a TOML text are read as what was written, in whichever way a string was written.
-/
namespace CodeRepair.Toml

variable {c x : Char} {cs done rest : List Char} {long : Bool} {fuel run : Nat}

/-- What may follow a value: the end of its line, or of its item. -/
def Ends (rest : List Char) : Prop := ∀ x ∈ rest.head?, x = '\n' ∨ x = ',' ∨ x = ']'

section Runs

/-- The longest run so far and the run at hand, after one more character. -/
def runStep (x : Char) (p : Nat × Nat) (c : Char) : Nat × Nat :=
  if c = x then (max p.1 (p.2 + 1), p.2 + 1) else (p.1, 0)

theorem le_foldl_runStep (x : Char) (cs : List Char) (p : Nat × Nat) : p.1 ≤ (cs.foldl (runStep x) p).1 := by
  induction cs generalizing p with
  | nil => exact Nat.le_refl _
  | cons c cs ih =>
    refine Nat.le_trans ?_ (ih _)
    unfold runStep
    split
    · exact Nat.le_max_left _ _
    · exact Nat.le_refl _

theorem runStep_replicate (x : Char) (k : Nat) (p : Nat × Nat) :
    p.2 + (k + 1) ≤ ((List.replicate (k + 1) x).foldl (runStep x) p).1 := by
  induction k generalizing p with
  | zero =>
    have hstep : ((List.replicate 1 x).foldl (runStep x) p).1 = max p.1 (p.2 + 1) := by simp [runStep]
    rw [hstep]
    exact Nat.le_max_right _ _
  | succ k ih =>
    have hrest := ih (runStep x p x)
    have hrun : (runStep x p x).2 = p.2 + 1 := by simp [runStep]
    rw [List.replicate_succ, List.foldl_cons]
    omega

theorem le_longestRun {k : Nat} (before after : List Char) (h : cs = before ++ List.replicate k x ++ after) :
    k ≤ longestRun x cs := by
  cases k with
  | zero => exact Nat.zero_le _
  | succ k =>
    have hmiddle := runStep_replicate x k (before.foldl (runStep x) (0, 0))
    have hlast :=
      le_foldl_runStep x after ((List.replicate (k + 1) x).foldl (runStep x) (before.foldl (runStep x) (0, 0)))
    have hvalue : longestRun x cs = (cs.foldl (runStep x) (0, 0)).1 := rfl
    rw [hvalue, h, List.foldl_append, List.foldl_append]
    omega

theorem not_mem_of_longestRun (h : longestRun x cs = 0) : x ∉ cs := by
  intro hx
  obtain ⟨before, after, hcs⟩ := List.append_of_mem hx
  have hle : 1 ≤ longestRun x cs := le_longestRun before after (by simp [hcs])
  omega

end Runs

section Escapes

def escapeText (long : Bool) (c : Char) : List Char :=
  if c = '"' then ['\\', '"']
  else if c = '\\' then ['\\', '\\']
  else if c = '\x08' then ['\\', 'b']
  else if c = '\t' then ['\\', 't']
  else if c = '\n' then (if long then ['\n'] else ['\\', 'n'])
  else if c = '\x0c' then ['\\', 'f']
  else if c = '\r' then ['\\', 'r']
  else if c.toNat < 0x20 ∨ c.toNat = 0x7F then
    ['\\', 'u', '0', '0', (Number.digitChar (c.toNat / 16)).toUpper, (Number.digitChar (c.toNat % 16)).toUpper]
  else [c]

theorem escaped_cons (long : Bool) (run : Nat) (c : Char) (cs : List Char) :
    escaped long run (c :: cs) =
      if c = '"' ∧ long = true ∧ run < 2 then '"' :: escaped long (run + 1) cs
      else escapeText long c ++ escaped long 0 cs := by
  by_cases hc : c = '"'
  · simp [escaped, escapeText, hc]
  · rw [if_neg (fun h ↦ hc h.1)]
    rw [escaped, escapeText]
    simp only [if_neg hc]
    repeat' split
    all_goals rfl

/-- A character stands for itself, or an escape stands for it. -/
inductive Told (long : Bool) (c : Char) : List Char → Prop
  | plain (hquote : c ≠ '"') (hslash : c ≠ '\\') (hc : isCommentChar c = true) : Told long c [c]
  | line (hlong : long = true) (hc : c = '\n') : Told long c [c]
  | escape (y : Char) (ys : List Char) (hy : isBlank y = false) (hline : y ≠ '\n' ∧ y ≠ '\r')
      (h : ∀ more, escape (y :: ys ++ more) = some (c, more)) : Told long c ('\\' :: y :: ys)

theorem Told.length_pos {text : List Char} (ht : Told long c text) : 0 < text.length := by
  cases ht <;> exact Nat.succ_pos _

theorem hexValue?_upper : ∀ d < 16, Number.hexValue? (Number.digitChar d).toUpper = some d := by decide

theorem hexEscape_eq (hc : c.toNat < 256) (more : List Char) :
    hexEscape 4 ('0' :: '0' :: (Number.digitChar (c.toNat / 16)).toUpper ::
      (Number.digitChar (c.toNat % 16)).toUpper :: more) = some (c, more) := by
  have hhigh := hexValue?_upper (c.toNat / 16) (by omega)
  have hlow := hexValue?_upper (c.toNat % 16) (by omega)
  have hzero : Number.hexValue? '0' = some 0 := rfl
  have hvalue : Number.ofDigits 16 [0, 0, c.toNat / 16, c.toNat % 16] = c.toNat := by
    simp [Number.ofDigits]
    omega
  have hscalar : scalar? c.toNat = some c := by
    rw [scalar?, if_pos (.inl (by omega)), Char.ofNat_toNat]
  rw [hexEscape]
  simp [hhigh, hlow, hzero, hvalue, hscalar]

theorem told_escapeText (long : Bool) (c : Char) : Told long c (escapeText long c) := by
  unfold escapeText
  split
  next hc => subst hc; exact .escape _ _ rfl (by decide) fun _ ↦ rfl
  split
  next hc => subst hc; exact .escape _ _ rfl (by decide) fun _ ↦ rfl
  split
  next hc => subst hc; exact .escape _ _ rfl (by decide) fun _ ↦ rfl
  split
  next hc => subst hc; exact .escape _ _ rfl (by decide) fun _ ↦ rfl
  split
  next hc =>
    split
    next hlong =>
      have hline := Told.line (c := c) hlong hc
      rwa [hc] at hline ⊢
    · subst hc
      exact .escape _ _ rfl (by decide) fun _ ↦ rfl
  split
  next hc => subst hc; exact .escape _ _ rfl (by decide) fun _ ↦ rfl
  split
  next hc => subst hc; exact .escape _ _ rfl (by decide) fun _ ↦ rfl
  split
  next hc => exact .escape _ _ rfl (by decide) fun more ↦ hexEscape_eq (by omega) more
  next hquote hslash _ _ _ _ _ hcontrol =>
    refine .plain hquote hslash ?_
    simp only [isCommentChar, Bool.or_eq_true, Bool.and_eq_true, decide_eq_true_eq]
    omega

end Escapes

section Short

theorem basicString_told {text : List Char} (ht : Told false c text) (more : List Char) (fuel : Nat) :
    basicString done (text ++ more) (fuel + 1) = basicString (c :: done) more fuel := by
  cases ht with
  | plain hquote hslash hc =>
    rw [List.singleton_append, basicString, if_pos hc]
    · exact fun h ↦ absurd h hquote
    · exact fun h ↦ absurd h hslash
  | line hlong _ => cases hlong
  | escape y ys _ _ h =>
    rw [List.cons_append, basicString, h more]
    rfl

theorem basicString_escaped (cs : List Char) (done rest : List Char) (fuel : Nat)
    (hfuel : (escaped false 0 cs).length < fuel) :
    basicString done (escaped false 0 cs ++ '"' :: rest) fuel = some (done.reverse ++ cs, rest) := by
  induction cs generalizing done fuel with
  | nil =>
    obtain ⟨fuel, rfl⟩ := Nat.exists_eq_succ_of_ne_zero (Nat.ne_of_gt hfuel)
    simp [escaped, basicString]
  | cons c cs ih =>
    have htext : escaped false 0 (c :: cs) = escapeText false c ++ escaped false 0 cs := by
      rw [escaped_cons, if_neg (by simp)]
    rw [htext] at hfuel ⊢
    have htold := told_escapeText false c
    have hpos := htold.length_pos
    rw [List.length_append] at hfuel
    obtain ⟨fuel, rfl⟩ := Nat.exists_eq_succ_of_ne_zero (Nat.ne_of_gt (Nat.zero_lt_of_lt hfuel))
    rw [List.append_assoc, basicString_told htold, ih _ _ (by omega)]
    simp

theorem literalString_plain (hquote : '\x27' ∉ cs) (hcs : ∀ c ∈ cs, isCommentChar c = true) (rest : List Char) :
    literalString (cs ++ '\x27' :: rest) = some (cs, rest) := by
  have hbody : (cs ++ '\x27' :: rest).takeWhile (fun c ↦ isCommentChar c && c ≠ '\x27') = cs := by
    refine Number.takeWhile_run ?_ (by simp)
    intro c hc
    have hne : c ≠ '\x27' := fun h ↦ hquote (h ▸ hc)
    simp [hcs c hc, hne]
  rw [literalString]
  simp only [hbody, List.drop_left]

end Short

section Long

variable {quote : Char} {escapes : Bool}

theorem countQuotes_replicate (quote : Char) (n : Nat) (h : ∀ y ∈ rest.head?, y ≠ quote) :
    countQuotes quote (List.replicate n quote ++ rest) = n := by
  have hrun : (List.replicate n quote ++ rest).takeWhile (· = quote) = List.replicate n quote :=
    Number.takeWhile_run (by simp) (by simpa using h)
  rw [countQuotes, hrun, List.length_replicate]

theorem longString_quotes {y : Char} {more : List Char} (hrun : 0 < run) (hrun' : run < 3) (hy : y ≠ quote) :
    longString quote escapes done (List.replicate run quote ++ y :: more) (fuel + 1) =
      longString quote escapes (List.replicate run quote ++ done) (y :: more) fuel := by
  have hcount : countQuotes quote (List.replicate run quote ++ y :: more) = run :=
    countQuotes_replicate quote run (by rintro z ⟨⟩; exact hy)
  obtain ⟨run, rfl⟩ := Nat.exists_eq_succ_of_ne_zero (Nat.ne_of_gt hrun)
  rw [List.replicate_succ, List.cons_append] at hcount ⊢
  rw [longString, if_pos rfl]
  simp only [hcount, if_pos hrun']
  simp [List.replicate_succ]

theorem longString_close (hrun : run < 3) (hrest : ∀ y ∈ rest.head?, y ≠ quote) :
    longString quote escapes done (List.replicate (run + 3) quote ++ rest) (fuel + 1) =
      some (done.reverse ++ List.replicate run quote, rest) := by
  have hcount := countQuotes_replicate quote (run + 3) hrest
  have hdrop : (List.replicate (run + 3) quote ++ rest).drop (run + 3) = rest := by simp
  rw [List.replicate_succ, List.cons_append] at hcount hdrop ⊢
  rw [longString, if_pos rfl]
  simp only [hcount, hdrop]
  rw [if_neg (by omega), if_pos (by omega)]
  simp

theorem lineBreak?_plain (hn : c ≠ '\n') (hr : c ≠ '\r') (cs : List Char) : lineBreak? (c :: cs) = none := by
  unfold lineBreak?
  split
  next he => cases he; exact absurd rfl hn
  next he => cases he; exact absurd rfl hr
  · rfl

theorem isCommentChar_line (hc : isCommentChar c = true) : c ≠ '\n' ∧ c ≠ '\r' := by
  constructor
  · rintro rfl
    cases hc
  · rintro rfl
    cases hc

theorem longString_plain (hquote : c ≠ quote) (hslash : ¬ (escapes = true ∧ c = '\\'))
    (hc : c = '\n' ∨ isCommentChar c = true) (more : List Char) (fuel : Nat) :
    longString quote escapes done (c :: more) (fuel + 1) = longString quote escapes (c :: done) more fuel := by
  rw [longString, if_neg hquote, if_neg hslash]
  rcases hc with rfl | hc
  · rfl
  · have hline := isCommentChar_line hc
    simp only [lineBreak?_plain hline.1 hline.2, if_pos hc]

theorem longString_told {text : List Char} (ht : Told true c text) (more : List Char) (fuel : Nat) :
    longString '"' true done (text ++ more) (fuel + 1) = longString '"' true (c :: done) more fuel := by
  cases ht with
  | plain hquote hslash hc => exact longString_plain hquote (fun h ↦ hslash h.2) (.inr hc) more fuel
  | line _ hc =>
    refine longString_plain ?_ ?_ (.inl hc) more fuel
    · rintro rfl
      cases hc
    · rintro ⟨-, rfl⟩
      cases hc
  | escape y ys hy hline h =>
    have hskip : skipBlanks (y :: ys ++ more) = y :: ys ++ more := by simp [skipBlanks, hy]
    rw [List.cons_append, longString, if_neg (by decide), if_pos ⟨rfl, rfl⟩, hskip]
    simp only [List.cons_append, lineBreak?_plain hline.1 hline.2]
    have hescape := h more
    rw [List.cons_append] at hescape
    rw [hescape]
    rfl

theorem Told.head {text : List Char} (ht : Told long c text) : ∃ y ys, text = y :: ys ∧ y ≠ '"' := by
  cases ht with
  | plain hquote _ _ => exact ⟨c, [], rfl, hquote⟩
  | line _ hc => exact ⟨c, [], rfl, by rw [hc]; decide⟩
  | escape y ys _ _ _ => exact ⟨'\\', y :: ys, rfl, by decide⟩

theorem longString_flush {y : Char} {more : List Char} (hrun : run < 3) (hy : y ≠ quote)
    {result : Option (List Char × List Char)}
    (h : ∀ fuel, (y :: more).length < fuel →
      longString quote escapes (List.replicate run quote ++ done) (y :: more) fuel = result)
    (hfuel : (List.replicate run quote ++ y :: more).length < fuel) :
    longString quote escapes done (List.replicate run quote ++ y :: more) fuel = result := by
  rcases Nat.eq_zero_or_pos run with rfl | hpos
  · exact h fuel hfuel
  · obtain ⟨fuel, rfl⟩ := Nat.exists_eq_succ_of_ne_zero (Nat.ne_of_gt (Nat.zero_lt_of_lt hfuel))
    rw [List.length_append, List.length_replicate] at hfuel
    rw [longString_quotes hpos hrun hy]
    exact h fuel (by omega)

/-- A string on several lines with escapes; `run` quotes have been written and not been read. -/
theorem longString_escaped (hrest : ∀ y ∈ rest.head?, y ≠ '"') (cs : List Char) (run : Nat) (hrun : run < 3)
    (done : List Char) (fuel : Nat)
    (hfuel : (List.replicate run '"' ++ (escaped true run cs ++ (List.replicate 3 '"' ++ rest))).length < fuel) :
    longString '"' true done (List.replicate run '"' ++ (escaped true run cs ++ (List.replicate 3 '"' ++ rest))) fuel =
      some (done.reverse ++ (List.replicate run '"' ++ cs), rest) := by
  -- The quotes read since the last other character are held in `run`; the reader counts them all at once.
  induction cs generalizing run done fuel with
  | nil =>
    obtain ⟨fuel, rfl⟩ := Nat.exists_eq_succ_of_ne_zero (Nat.ne_of_gt (Nat.zero_lt_of_lt hfuel))
    rw [escaped, List.nil_append, ← List.append_assoc, List.replicate_append_replicate, longString_close hrun hrest,
      List.append_nil]
  | cons c cs ih =>
    rw [escaped_cons] at hfuel ⊢
    split
    next hquote =>
      obtain ⟨rfl, -, hlt⟩ := hquote
      rw [if_pos ⟨rfl, rfl, hlt⟩] at hfuel
      have hmore (l : List Char) : List.replicate run '"' ++ '"' :: l = List.replicate (run + 1) '"' ++ l := by
        rw [List.replicate_succ', List.append_assoc]
        rfl
      rw [List.cons_append, hmore] at hfuel ⊢
      rw [ih (run + 1) (by omega) done fuel hfuel, hmore]
    next hquote =>
      rw [if_neg hquote, List.append_assoc] at hfuel
      rw [List.append_assoc]
      have htold := told_escapeText true c
      obtain ⟨y, ys, hy, hne⟩ := htold.head
      rw [hy, List.cons_append] at hfuel ⊢
      refine longString_flush hrun hne ?_ hfuel
      intro fuel hfuel
      rw [← List.cons_append, ← hy] at hfuel ⊢
      obtain ⟨fuel, rfl⟩ := Nat.exists_eq_succ_of_ne_zero (Nat.ne_of_gt (Nat.zero_lt_of_lt hfuel))
      have hpos := htold.length_pos
      rw [List.length_append] at hfuel
      have hrest := ih 0 (by omega) (c :: (List.replicate run '"' ++ done)) fuel (by
        rw [List.replicate_zero, List.nil_append]
        omega)
      rw [longString_told htold]
      simpa using hrest

def NoTriple (x : Char) (cs : List Char) : Prop := ∀ k before after, cs = before ++ List.replicate k x ++ after → k < 3

theorem noTriple_of_longestRun (h : longestRun x cs ≤ 2) : NoTriple x cs := fun _ before after hcs ↦
  Nat.lt_succ_of_le (Nat.le_trans (le_longestRun before after hcs) h)

theorem NoTriple.suffix (before : List Char) (h : NoTriple x (before ++ cs)) : NoTriple x cs := by
  intro k before' after hcs
  exact h k (before ++ before') after (by rw [hcs]; simp)

/-- A string on several lines without escapes; `run` quotes have been written and not been read. -/
theorem longString_literal (hrest : ∀ y ∈ rest.head?, y ≠ quote) (cs : List Char)
    (hcs : ∀ c ∈ cs, c = '\n' ∨ isCommentChar c = true) (run : Nat)
    (hruns : NoTriple quote (List.replicate run quote ++ cs))
    (done : List Char) (fuel : Nat)
    (hfuel : (List.replicate run quote ++ (cs ++ (List.replicate 3 quote ++ rest))).length < fuel) :
    longString quote false done (List.replicate run quote ++ (cs ++ (List.replicate 3 quote ++ rest))) fuel =
      some (done.reverse ++ (List.replicate run quote ++ cs), rest) := by
  have hrun : run < 3 := hruns run [] cs rfl
  induction cs generalizing run done fuel with
  | nil =>
    obtain ⟨fuel, rfl⟩ := Nat.exists_eq_succ_of_ne_zero (Nat.ne_of_gt (Nat.zero_lt_of_lt hfuel))
    rw [List.nil_append, ← List.append_assoc, List.replicate_append_replicate, longString_close hrun hrest,
      List.append_nil]
  | cons c cs ih =>
    have hcs' : ∀ c ∈ cs, c = '\n' ∨ isCommentChar c = true := fun c hc ↦ hcs c (by simp [hc])
    by_cases hquote : c = quote
    · subst hquote
      have hmore (l : List Char) : List.replicate run c ++ c :: l = List.replicate (run + 1) c ++ l := by
        rw [List.replicate_succ', List.append_assoc]
        rfl
      rw [hmore] at hruns
      rw [List.cons_append, hmore] at hfuel ⊢
      rw [ih hcs' (run + 1) hruns done fuel hfuel (hruns (run + 1) [] cs rfl), hmore]
    · rw [List.cons_append] at hfuel ⊢
      refine longString_flush hrun hquote ?_ hfuel
      intro fuel hfuel
      obtain ⟨fuel, rfl⟩ := Nat.exists_eq_succ_of_ne_zero (Nat.ne_of_gt (Nat.zero_lt_of_lt hfuel))
      have hruns' : NoTriple quote (List.replicate 0 quote ++ cs) := by
        refine NoTriple.suffix (List.replicate run quote ++ [c]) ?_
        simpa using hruns
      have hrest := ih hcs' 0 hruns' (c :: (List.replicate run quote ++ done)) fuel
        (by simpa using Nat.lt_of_succ_lt_succ hfuel) (by omega)
      rw [longString_plain hquote (by simp) (hcs c (by simp))]
      simpa using hrest

end Long

section Strings

theorem Ends.not_quote (h : Ends rest) : ∀ y ∈ rest.head?, y ≠ '"' ∧ y ≠ '\x27' := by
  intro y hy
  rcases h y hy with rfl | rfl | rfl <;> decide

theorem plain_of_traits (h : (traits cs).hasControl = false) : ∀ c ∈ cs, c = '\n' ∨ isCommentChar c = true := by
  intro c hc
  have hplain := List.any_eq_false.1 h c hc
  simp only [Bool.and_eq_true, Bool.or_eq_true, decide_eq_true_eq, ne_eq, not_and, not_or] at hplain
  by_cases htab : c = '\t'
  · exact .inr (by rw [htab]; rfl)
  by_cases hline : c = '\n'
  · exact .inl hline
  · have hrange := hplain ⟨htab, hline⟩
    refine .inr ?_
    simp only [isCommentChar, Bool.or_eq_true, Bool.and_eq_true, decide_eq_true_eq]
    exact .inr ⟨by omega, hrange.2⟩

theorem noLine_of_traits (h : (traits cs).hasLineFeed = false) : '\n' ∉ cs := by simpa [traits] using h

theorem string_short (hquotes : ∀ more, cs ≠ '"' :: '"' :: '"' :: more)
    (hsingles : ∀ more, cs ≠ '\x27' :: '\x27' :: '\x27' :: more) : string cs = shortString cs := by
  unfold string
  split
  · exact absurd rfl (hquotes _)
  · exact absurd rfl (hsingles _)
  · rfl

theorem string_basic (cs : List Char) (hrest : Ends rest) :
    string ('"' :: escaped false 0 cs ++ ['"'] ++ rest) = some (String.ofList cs, rest) := by
  have htext : '"' :: escaped false 0 cs ++ ['"'] ++ rest = '"' :: (escaped false 0 cs ++ '"' :: rest) := by simp
  have hquotes (more : List Char) : '"' :: (escaped false 0 cs ++ '"' :: rest) ≠ '"' :: '"' :: '"' :: more := by
    intro h
    cases cs with
    | nil =>
      cases rest with
      | nil => cases h
      | cons y ys =>
        cases h
        exact (hrest.not_quote '"' rfl).1 rfl
    | cons c cs =>
      obtain ⟨y, ys, hy, hne⟩ := (told_escapeText false c).head
      rw [escaped_cons, if_neg (by simp), hy] at h
      exact hne (List.cons.inj (List.cons.inj h).2).1
  have hfuel : (escaped false 0 cs).length < (escaped false 0 cs ++ '"' :: rest).length + 1 := by
    rw [List.length_append]
    omega
  rw [htext, string_short hquotes (by simp), shortString, basicString_escaped cs [] rest _ hfuel]
  rfl

theorem string_literal (hquote : '\x27' ∉ cs) (hcs : ∀ c ∈ cs, isCommentChar c = true) (hne : cs ≠ [])
    (rest : List Char) :
    string ('\x27' :: cs ++ ['\x27'] ++ rest) = some (String.ofList cs, rest) := by
  have htext : '\x27' :: cs ++ ['\x27'] ++ rest = '\x27' :: (cs ++ '\x27' :: rest) := by simp
  have hsingles (more : List Char) : '\x27' :: (cs ++ '\x27' :: rest) ≠ '\x27' :: '\x27' :: '\x27' :: more := by
    intro h
    cases cs with
    | nil => exact hne rfl
    | cons c cs =>
      have hc : c = '\x27' := (List.cons.inj (List.cons.inj h).2).1
      exact hquote (by simp [hc])
  rw [htext, string_short (by simp) hsingles, shortString, literalString_plain hquote hcs rest]
  rfl

theorem dropLineBreak_first {body : List Char} (lineFeed : Bool)
    (h : lineFeed = false → ∀ y ∈ body.head?, y ≠ '\n' ∧ y ≠ '\r') :
    dropLineBreak ((if lineFeed then ['\n'] else []) ++ body) = body := by
  cases lineFeed with
  | true => rfl
  | false =>
    cases body with
    | nil => rfl
    | cons y ys =>
      have hy := h rfl y rfl
      simp [dropLineBreak, lineBreak?_plain hy.1 hy.2]

theorem string_longBasic (cs : List Char) (hrest : Ends rest) (lineFeed : Bool) (hline : lineFeed = false → '\n' ∉ cs) :
    string (['"', '"', '"'] ++ (if lineFeed then ['\n'] else []) ++ escaped true 0 cs ++ ['"', '"', '"'] ++ rest) =
      some (String.ofList cs, rest) := by
  obtain ⟨body, hbody⟩ : ∃ body, body = escaped true 0 cs ++ (List.replicate 3 '"' ++ rest) := ⟨_, rfl⟩
  have htext : ['"', '"', '"'] ++ (if lineFeed then ['\n'] else []) ++ escaped true 0 cs ++ ['"', '"', '"'] ++ rest =
      '"' :: '"' :: '"' :: ((if lineFeed then ['\n'] else []) ++ body) := by
    rw [hbody]
    simp [List.replicate]
  have hhead (h : lineFeed = false) : ∀ y ∈ body.head?, y ≠ '\n' ∧ y ≠ '\r' := by
    intro y hy
    rw [hbody] at hy
    cases cs with
    | nil =>
      cases hy
      decide
    | cons c cs =>
      rw [escaped_cons] at hy
      split at hy
      · cases hy
        decide
      · have htold := told_escapeText true c
        generalize escapeText true c = text at hy htold
        cases htold with
        | plain _ _ hc =>
          cases hy
          exact isCommentChar_line hc
        | line _ hc => exact absurd (by simp [hc]) (hline h)
        | escape _ _ _ _ _ =>
          cases hy
          decide
  have hread := longString_escaped (fun y hy ↦ (hrest.not_quote y hy).1) cs 0 (by decide) []
    (((if lineFeed then ['\n'] else []) ++ body).length + 1)
    (by rw [hbody]; simp only [List.length_append, List.length_replicate]; omega)
  rw [List.replicate_zero, List.nil_append, List.nil_append, ← hbody] at hread
  rw [htext, string, dropLineBreak_first lineFeed hhead, hread]
  rfl

theorem string_longLiteral (hcs : ∀ c ∈ cs, c = '\n' ∨ isCommentChar c = true) (hruns : NoTriple '\x27' cs)
    (hrest : Ends rest) (lineFeed : Bool) (hline : lineFeed = false → '\n' ∉ cs) :
    string (['\x27', '\x27', '\x27'] ++ (if lineFeed then ['\n'] else []) ++ cs ++ ['\x27', '\x27', '\x27'] ++ rest) =
      some (String.ofList cs, rest) := by
  obtain ⟨body, hbody⟩ : ∃ body, body = cs ++ (List.replicate 3 '\x27' ++ rest) := ⟨_, rfl⟩
  have htext : ['\x27', '\x27', '\x27'] ++ (if lineFeed then ['\n'] else []) ++ cs ++ ['\x27', '\x27', '\x27'] ++ rest =
      '\x27' :: '\x27' :: '\x27' :: ((if lineFeed then ['\n'] else []) ++ body) := by
    rw [hbody]
    simp [List.replicate]
  have hhead (h : lineFeed = false) : ∀ y ∈ body.head?, y ≠ '\n' ∧ y ≠ '\r' := by
    intro y hy
    rw [hbody] at hy
    cases cs with
    | nil =>
      cases hy
      decide
    | cons c cs =>
      cases hy
      rcases hcs y (by simp) with rfl | hc
      · exact absurd (by simp) (hline h)
      · exact isCommentChar_line hc
  have hread := longString_literal (fun y hy ↦ (hrest.not_quote y hy).2) cs hcs 0 hruns []
    (((if lineFeed then ['\n'] else []) ++ body).length + 1)
    (by rw [hbody]; simp only [List.length_append, List.length_replicate]; omega)
  rw [List.replicate_zero, List.nil_append, List.nil_append, ← hbody] at hread
  rw [htext, string, dropLineBreak_first lineFeed hhead, hread]
  rfl

theorem literal_of_style (h : chooseStyle (traits cs) = .literal) :
    (traits cs).hasControl = false ∧ longestRun '\x27' cs = 0 ∧ (traits cs).hasLineFeed = false ∧ cs ≠ [] := by
  have hne : cs ≠ [] := by
    rintro rfl
    cases h
  unfold chooseStyle at h
  repeat' split at h
  any_goals cases h
  next hplain =>
    simp only [Bool.and_eq_true, Bool.not_eq_true', decide_eq_true_eq] at hplain
    exact ⟨hplain.1.1, hplain.1.2, hplain.2, hne⟩

theorem longLiteral_of_style (h : chooseStyle (traits cs) = .longLiteral) :
    (traits cs).hasControl = false ∧ longestRun '\x27' cs ≤ 2 := by
  unfold chooseStyle at h
  repeat' split at h
  any_goals cases h
  next hplain =>
    simp only [Bool.and_eq_true, Bool.not_eq_true', decide_eq_true_eq] at hplain
    exact hplain

/-- A string is read as itself, whichever way it was written. -/
theorem string_written (s : String) (hrest : Ends rest) : string (writeString s ++ rest) = some (s, rest) := by
  have hs : String.ofList s.toList = s := String.ofList_toList
  have hline : (traits s.toList).hasLineFeed = false → '\n' ∉ s.toList := noLine_of_traits
  rw [writeString]
  cases hstyle : chooseStyle (traits s.toList) with
  | basic => exact (string_basic _ hrest).trans (by rw [hs])
  | longBasic => exact (string_longBasic _ hrest _ hline).trans (by rw [hs])
  | literal =>
    obtain ⟨hcontrol, hsingles, hfeed, hne⟩ := literal_of_style hstyle
    have hcs (c : Char) (hc : c ∈ s.toList) : isCommentChar c = true := by
      refine (plain_of_traits hcontrol c hc).resolve_left ?_
      rintro rfl
      exact hline hfeed hc
    exact (string_literal (not_mem_of_longestRun hsingles) hcs hne rest).trans (by rw [hs])
  | longLiteral =>
    obtain ⟨hcontrol, hsingles⟩ := longLiteral_of_style hstyle
    exact (string_longLiteral (plain_of_traits hcontrol) (noTriple_of_longestRun hsingles) hrest _ hline).trans
      (by rw [hs])

end Strings

section Numbers

open Number (Spells)

variable {ds : List Char} {n k : Nat} {y : Char}

theorem Ends.not_digit (h : Ends rest) : ∀ y ∈ rest.head?, y.isDigit = false := by
  intro y hy
  rcases h y hy with rfl | rfl | rfl <;> rfl

theorem head_drop (hds : ∀ d ∈ ds, d.isDigit = true) (hrest : Ends rest) (k : Nat) :
    ∀ y ∈ (ds.drop k ++ rest).head?, y.isDigit = true ∨ y = '\n' ∨ y = ',' ∨ y = ']' := by
  intro y hy
  cases hdrop : ds.drop k with
  | nil =>
    rw [hdrop] at hy
    exact .inr (hrest y hy)
  | cons d more =>
    rw [hdrop] at hy
    cases hy
    exact .inl (hds y (List.mem_of_mem_drop (by rw [hdrop]; simp)))

theorem hexValue?_digit (hc : c.isDigit = true) : Number.hexValue? c = Number.digitValue? c := by
  rw [Number.hexValue?, Number.digitValue?, if_pos (Number.isDigit_iff.1 hc), if_pos (Number.isDigit_iff.1 hc)]

theorem digitsValue_eq (hs : Spells ds n) : digitsValue 10 ds = n := by
  have hvalues : ds.filterMap Number.hexValue? = ds.filterMap Number.digitValue? :=
    List.filterMap_congr fun d hd ↦ hexValue?_digit (hs.isDigit d hd)
  rw [digitsValue, hvalues, hs.value]

theorem digitRun_eq (hds : ∀ d ∈ ds, d.isDigit = true) (hne : ds ≠ []) (hrest : Ends rest) :
    digitRun Char.isDigit (ds ++ rest) = some (ds, rest) := by
  have hrun : (ds ++ rest).takeWhile (fun c ↦ c.isDigit || c = '_') = ds := by
    refine Number.takeWhile_run (fun d hd ↦ by simp [hds d hd]) ?_
    intro y hy
    rcases hrest y hy with rfl | rfl | rfl <;> decide
  have hplain (c : Char) (hc : c ∈ ds) : c ≠ '_' := Number.ne_of_class (hds c hc) rfl
  have hempty : ds.isEmpty = false := by simpa using hne
  have hhead : ds.head? ≠ some '_' := fun h ↦ hplain '_' (List.mem_of_mem_head? h) rfl
  have hlast : ds.getLast? ≠ some '_' := fun h ↦ hplain '_' (List.mem_of_getLast? h) rfl
  have hdoubled : ((ds.zip ds.tail).any fun p ↦ p.1 = '_' && p.2 = '_') = false := by
    refine List.any_eq_false.2 ?_
    rintro ⟨a, b⟩ hab
    simp [hplain a (List.of_mem_zip hab).1]
  have hfilter : ds.filter (· ≠ '_') = ds := List.filter_eq_self.2 fun c hc ↦ by simpa using hplain c hc
  rw [digitRun]
  simp only [hrun, hempty, hdoubled, hfilter, List.drop_left]
  simp [hhead, hlast]

theorem decimalRun_eq (hs : Spells ds n) (hzero : ds.head? = some '0' → ds.length = 1) (hrest : Ends rest) :
    decimalRun (ds ++ rest) = some (ds, rest) := by
  have hleading : ¬ (ds.head? = some '0' ∧ (ds.length ≠ 1 ∨ (ds ++ rest).tail.head? = some '_')) := by
    rintro ⟨hhead, hlong | hnext⟩
    · exact hlong (hzero hhead)
    · have hlength := hzero hhead
      obtain ⟨d, rfl⟩ := List.length_eq_one_iff.1 hlength
      rcases hrest '_' hnext with h | h | h <;> cases h
  rw [decimalRun, digitRun_eq hs.isDigit hs.nonempty hrest]
  simp only [Option.bind_eq_bind, Option.bind_some, if_neg hleading]
  rfl

theorem fixedDigits_inv {m : Nat} {after : List Char} (hrest : Ends rest)
    (h : fixedDigits k (ds ++ rest) = some (m, after)) : after = ds.drop k ++ rest := by
  rw [fixedDigits] at h
  cases hvalues : ((ds ++ rest).take k).mapM Number.digitValue? with
  | none => simp [hvalues] at h
  | some values =>
    simp only [hvalues, Option.bind_eq_bind, Option.bind_some] at h
    split at h
    · cases h
    next hlength =>
      have hafter : (ds ++ rest).drop k = after := (Prod.mk.inj (Option.some.inj h)).2
      have hk : k ≤ ds.length := by
        by_contra hshort
        obtain ⟨hcount, hall⟩ := Number.mapM_digits_inv hvalues
        rw [List.length_take, List.length_append] at hcount
        cases rest with
        | nil =>
          rw [List.length_nil] at hcount
          omega
        | cons y ys =>
          have hy : y ∈ (ds ++ y :: ys).take k := by
            rw [List.take_append]
            refine List.mem_append_right _ ?_
            obtain ⟨j, hj⟩ := Nat.exists_eq_succ_of_ne_zero (by omega : k - ds.length ≠ 0)
            rw [hj]
            simp
          have hdigit := hall y hy
          rw [hrest.not_digit y rfl] at hdigit
          cases hdigit
      rw [← hafter, List.drop_append_of_le_length hk]

theorem mark_none {after : List Char} (h : ∀ z ∈ after.head?, z ≠ y) : mark y after = none := by
  cases after with
  | nil => rfl
  | cons z zs => exact if_neg (h z rfl)

theorem mark_digits (hds : ∀ d ∈ ds, d.isDigit = true) (hrest : Ends rest) (hy : y = '-' ∨ y = ':') (k : Nat) :
    mark y (ds.drop k ++ rest) = none := by
  refine mark_none fun z hz ↦ ?_
  rcases head_drop hds hrest k z hz with hz | rfl | rfl | rfl
  · rintro rfl
    rcases hy with rfl | rfl <;> cases hz
  all_goals (rcases hy with rfl | rfl <;> decide)

theorem date_none (hds : ∀ d ∈ ds, d.isDigit = true) (hrest : Ends rest) : date (ds ++ rest) = none := by
  rw [date]
  cases hyear : fixedDigits 4 (ds ++ rest) with
  | none => rfl
  | some r =>
    obtain ⟨year, after⟩ := r
    rw [fixedDigits_inv hrest hyear]
    simp only [Option.bind_eq_bind, Option.bind_some, mark_digits hds hrest (.inl rfl)]
    rfl

theorem timeOfDay_none (hds : ∀ d ∈ ds, d.isDigit = true) (hrest : Ends rest) : timeOfDay (ds ++ rest) = none := by
  rw [timeOfDay]
  cases hhour : fixedDigits 2 (ds ++ rest) with
  | none => rfl
  | some r =>
    obtain ⟨hour, after⟩ := r
    rw [fixedDigits_inv hrest hhour]
    simp only [Option.bind_eq_bind, Option.bind_some, mark_digits hds hrest (.inr rfl)]
    rfl

theorem dateTime_none (hds : ∀ d ∈ ds, d.isDigit = true) (hrest : Ends rest) : dateTime (ds ++ rest) = none := by
  rw [dateTime, date_none hds hrest]
  exact timeOfDay_none hds hrest

theorem head_digit (hds : ∀ d ∈ ds, d.isDigit = true) (hne : ds ≠ []) {more : List Char}
    (h : ds ++ rest = y :: more) : y.isDigit = true := by
  cases ds with
  | nil => exact absurd rfl hne
  | cons d ds =>
    cases h
    exact hds y (by simp)

theorem sign_digits (hds : ∀ d ∈ ds, d.isDigit = true) (hne : ds ≠ []) (rest : List Char) :
    sign (ds ++ rest) = (false, ds ++ rest) := by
  unfold sign
  split
  next he => cases head_digit hds hne he
  next he => cases head_digit hds hne he
  · rfl

theorem float_none (hs : Spells ds n) (hzero : ds.head? = some '0' → ds.length = 1) (hrest : Ends rest) :
    float (ds ++ rest) = none := by
  have hexponent : exponent rest = some (none, rest) := by
    cases rest with
    | nil => rfl
    | cons y ys => rcases hrest y rfl with rfl | rfl | rfl <;> rfl
  have hfirst (y : Char) (more : List Char) (h : ds ++ rest = y :: more) : y.isDigit = true :=
    head_digit hs.isDigit hs.nonempty h
  rw [float]
  simp only [sign_digits hs.isDigit hs.nonempty]
  split
  next he => cases hfirst 'i' _ he
  next he => cases hfirst 'n' _ he
  · rw [decimalRun_eq hs hzero hrest]
    cases rest with
    | nil => rfl
    | cons y ys => rcases hrest y rfl with rfl | rfl | rfl <;> rfl

theorem fits_natCast (hn : n < Nat.pow 2 63) : fits (n : Int) = some (n : Int) :=
  if_pos ⟨Int.le_trans (Int.neg_nonpos_of_nonneg (Int.natCast_nonneg _)) (Int.natCast_nonneg n), Int.ofNat_lt.2 hn⟩

-- the range is a variable here, as the kernel would count up to its bounds
theorem decimal_of_parts {g : Int → Option Int} {after : List Char} {m : Int} (hsign : sign cs = (false, after))
    (hrun : decimalRun after = some (ds, rest)) (hfits : g (digitsValue 10 ds) = some m) :
    (do
      let (minus, rest) := sign cs
      let (digits, rest) ← decimalRun rest
      let n : Int := digitsValue 10 digits
      return (← g (if minus then -n else n), rest)) = some (m, rest) := by
  simp only [hsign, hrun, Option.bind_eq_bind, Option.bind_some, Bool.false_eq_true, if_false, hfits]
  rfl

theorem integer_eq (hs : Spells ds n) (hzero : ds.head? = some '0' → ds.length = 1) (hn : n < Nat.pow 2 63)
    (hrest : Ends rest) : integer (ds ++ rest) = some ((n : Int), rest) := by
  have hfits : fits (digitsValue 10 ds) = some (n : Int) := by
    rw [digitsValue_eq hs]
    exact fits_natCast hn
  have hsecond (y : Char) (more : List Char) (h : ds ++ rest = '0' :: y :: more) :
      y.isDigit = true ∨ y = '\n' ∨ y = ',' ∨ y = ']' := by
    refine head_drop hs.isDigit hrest 1 y ?_
    have htail : ds.drop 1 ++ rest = (ds ++ rest).tail := by
      rw [List.tail_append_of_ne_nil hs.nonempty, List.drop_one]
    rw [htail, h]
    rfl
  rw [integer]
  · exact decimal_of_parts (g := fits) (sign_digits hs.isDigit hs.nonempty rest) (decimalRun_eq hs hzero hrest) hfits
  all_goals
    intro more h
    rcases hsecond _ _ h with hd | hd | hd | hd <;> cases hd

end Numbers

end CodeRepair.Toml

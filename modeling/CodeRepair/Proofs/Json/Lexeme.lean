import CodeRepair.Json.Reader
import CodeRepair.Json.Writer
import CodeRepair.Proofs.Number.Digits

/-!
Strings and numbers of a JSON text are read as what was written. Where a reader stands says nothing about what it
reads, so only the rest of the text is followed.
-/
namespace CodeRepair.Json

variable {c : Cursor} {x : Char} {xs rest ws : List Char}

/-- What may follow a value in a text without white space. -/
def Closes (rest : List Char) : Prop := ∀ x ∈ rest.head?, x = ',' ∨ x = ']' ∨ x = '\x7d'

theorem Closes.not_digit (h : Closes rest) : ∀ y ∈ rest.head?, y.isDigit = false := by
  intro y hy
  rcases h y hy with rfl | rfl | rfl <;> rfl

namespace Cursor

theorem rest_past (c : Cursor) (x : Char) (rest : List Char) : (c.past x rest).rest = rest := by
  unfold past
  split <;> rfl

theorem rest_advance (h : c.rest = x :: xs) : c.advance.rest = xs := by
  rw [advance, h]
  exact rest_past c x xs

theorem advance_suffix (h : c.rest = x :: xs) : c.advance.rest <:+ c.rest := by
  rw [rest_advance h, h]
  exact List.suffix_cons x xs

theorem peek?_eq (h : c.rest = x :: xs) : c.peek? = some x := by
  rw [peek?, h]
  rfl

theorem skipSpace_eq (h : c.rest = x :: xs) (hx : isSpace x = false) : c.skipSpace = c := by
  cases c
  cases h
  simp [skipSpace, skipWhile, hx]

theorem word_eq (ws : List Char) (h : c.rest = ws ++ rest) : ∃ c', c.word ws = .ok c' ∧ c'.rest = rest := by
  induction ws generalizing c with
  | nil => exact ⟨c, rfl, h⟩
  | cons w ws ih =>
    obtain ⟨c', hword, hrest⟩ := ih (rest_advance h)
    refine ⟨c', ?_, hrest⟩
    rw [word, peek?_eq h]
    simp only [if_true]
    exact hword

end Cursor

namespace Lexeme

section Strings

theorem stringFrom_simple {x y : Char} (hy : simpleEscape? y = some x) (hu : y ≠ 'u') (done : List Char) (c : Cursor)
    (rest : List Char) :
    ∃ c', stringFrom .plain done c ('\\' :: y :: rest) = stringFrom .plain (x :: done) c' rest := by
  rw [stringFrom, if_neg (by decide), if_pos rfl, stringFrom, if_neg hu]
  simp only [hy]
  exact ⟨_, rfl⟩

theorem stringFrom_hex {v : Nat} (hv : v < 256) (done : List Char) (c : Cursor) (rest : List Char) :
    ∃ c', stringFrom .plain done c
        ('\\' :: 'u' :: '0' :: '0' :: Number.digitChar (v / 16) :: Number.digitChar (v % 16) :: rest) =
      stringFrom .plain (Char.ofNat v :: done) c' rest := by
  have hhigh := Number.hexValue?_digitChar (v / 16) (by omega)
  have hlow := Number.hexValue?_digitChar (v % 16) (by omega)
  have hzero : Number.hexValue? '0' = some 0 := rfl
  have hunit : unit ((((0 * 16 + 0) * 16 + 0) * 16 + v / 16) * 16 + v % 16) none = .ok (.inl (Char.ofNat v)) := by
    have hvalue : (((0 * 16 + 0) * 16 + 0) * 16 + v / 16) * 16 + v % 16 = v := by omega
    rw [hvalue, unit]
    simp only [if_neg (by omega : ¬ (0xDC00 ≤ v ∧ v ≤ 0xDFFF)), if_neg (by omega : ¬ (0xD800 ≤ v ∧ v ≤ 0xDBFF))]
  rw [stringFrom, if_neg (by decide), if_pos rfl, stringFrom, if_pos rfl]
  simp only [stringFrom, hzero, hhigh, hlow, hunit]
  exact ⟨_, rfl⟩

theorem stringFrom_writeChar (x : Char) (done : List Char) (c : Cursor) (rest : List Char) :
    ∃ c', stringFrom .plain done c (writeChar x ++ rest) = stringFrom .plain (x :: done) c' rest := by
  unfold writeChar
  split
  next hx => subst hx; exact stringFrom_simple rfl (by decide) done c rest
  split
  next hx => subst hx; exact stringFrom_simple rfl (by decide) done c rest
  split
  next hx => subst hx; exact stringFrom_simple rfl (by decide) done c rest
  split
  next hx => subst hx; exact stringFrom_simple rfl (by decide) done c rest
  split
  next hx => subst hx; exact stringFrom_simple rfl (by decide) done c rest
  split
  next hx => subst hx; exact stringFrom_simple rfl (by decide) done c rest
  split
  next hx => subst hx; exact stringFrom_simple rfl (by decide) done c rest
  split
  next hx =>
    have hhex := stringFrom_hex (by omega : x.toNat < 256) done c rest
    rw [Char.ofNat_toNat] at hhex
    exact hhex
  next hquote hslash _ _ _ _ _ hcontrol =>
    rw [List.singleton_append, stringFrom, if_neg hquote, if_neg hslash, if_neg hcontrol]
    exact ⟨_, rfl⟩

theorem string_eq {s : String} (h : c.rest = s.toList.flatMap writeChar ++ '"' :: rest) :
    ∃ c', string c = .ok (s, c') ∧ c'.rest = rest := by
  have hchars (cs done : List Char) (c : Cursor) :
      ∃ c', stringFrom .plain done c (cs.flatMap writeChar ++ '"' :: rest) = .ok (done.reverse ++ cs, c') ∧
        c'.rest = rest := by
    induction cs generalizing done c with
    | nil =>
      refine ⟨_, ?_, Cursor.rest_past ⟨'"' :: rest, c.line, c.column⟩ '"' rest⟩
      simp [stringFrom]
    | cons x cs ih =>
      obtain ⟨c₁, hx⟩ := stringFrom_writeChar x done c (cs.flatMap writeChar ++ '"' :: rest)
      obtain ⟨c₂, hcs, hrest⟩ := ih (x :: done) c₁
      refine ⟨c₂, ?_, hrest⟩
      rw [List.flatMap_cons, List.append_assoc, hx, hcs]
      simp
  obtain ⟨c', hread, hrest⟩ := hchars s.toList [] c
  refine ⟨c', ?_, hrest⟩
  rw [string, h, hread]
  simp [bind, Except.bind, pure, Except.pure]

end Strings

section Numbers

variable {ds : List Char} {n : Nat}

theorem digits_eq (hds : ∀ d ∈ ds, d.isDigit = true) (hrest : ∀ y ∈ rest.head?, y.isDigit = false)
    (h : c.rest = ds ++ rest) :
    digits c = (ds.filterMap Number.digitValue?, ⟨rest, c.line, c.column + ds.length⟩) := by
  rw [digits, h]
  simp only [Number.takeWhile_run hds hrest, List.drop_left]

theorem le_foldl_digits (n : Nat) (ds : List Nat) : n ≤ ds.foldl (fun n d ↦ n * 10 + d) n := by
  induction ds generalizing n with
  | nil => exact Nat.le_refl n
  | cons d ds ih =>
    have hrest := ih (n * 10 + d)
    rw [List.foldl_cons]
    omega

theorem accumulate_eq (n : Nat) (ds : List Nat) (h : ds.foldl (fun n d ↦ n * 10 + d) n ≤ maxWhole) :
    accumulate n ds = (ds.foldl (fun n d ↦ n * 10 + d) n, 0) := by
  induction ds generalizing n with
  | nil => rfl
  | cons d ds ih =>
    rw [List.foldl_cons] at h
    have hle := le_foldl_digits (n * 10 + d) ds
    rw [accumulate, if_neg (by omega)]
    exact ih _ h

theorem peek?_closes (hc : Closes c.rest) :
    c.peek? = none ∨ c.peek? = some ',' ∨ c.peek? = some ']' ∨ c.peek? = some '\x7d' := by
  rw [Cursor.peek?]
  cases hrest : c.rest with
  | nil => exact .inl rfl
  | cons y ys =>
    rcases hc y (by rw [hrest]; rfl) with rfl | rfl | rfl
    · exact .inr (.inl rfl)
    · exact .inr (.inr (.inl rfl))
    · exact .inr (.inr (.inr rfl))

def wholeNumber (c : Cursor) (negative : Bool) (n dropped : Nat) : Except Fault (Number × Cursor) :=
  if dropped ≠ 0 then real c negative n dropped
  else if !negative then .ok (.whole n, c)
  else if n = 0 ∨ Nat.pow 2 63 < n then .ok (.real (-(UInt64.ofNat n).toFloat), c)
  else .ok (.whole (-(n : Int)), c)

theorem number_decimalDigits (hn : n ≤ maxWhole) (h : c.rest = Number.decimalDigits n ++ rest) (hrest : Closes rest)
    (negative : Bool) : ∃ c', number c negative = wholeNumber c' negative n 0 ∧ c'.rest = rest := by
  have hspells := Number.spells_decimalDigits n
  obtain ⟨d, ds, hds, hzero⟩ := Number.decimalDigits_head n
  have hvalue : (d :: ds).foldl (fun n d ↦ n * 10 + d) 0 = n := by
    rw [← hds]
    exact hspells.value
  have haccumulate : accumulate 0 (d :: ds) = (n, 0) := by
    rw [accumulate_eq 0 (d :: ds) (hvalue ▸ hn), hvalue]
  let after : Cursor := ⟨rest, c.line, c.column + (Number.decimalDigits n).length⟩
  refine ⟨after, ?_, rfl⟩
  rw [number, digits_eq hspells.isDigit hrest.not_digit h, hds]
  simp only [if_neg (fun hd : d = 0 ∧ ds ≠ [] ↦ hd.2 (hzero hd.1)), haccumulate]
  rcases peek?_closes (c := after) hrest with hp | hp | hp | hp <;> rw [hp] <;> rfl

end Numbers

section Context

/-! What a number is does not depend on the text around it. -/

variable {c₀ c₁ : Cursor} {text : List Char} {v : Number} {negative minus : Bool} {significand dropped : Nat}
  {power : Int}

/-- A reader that has read the front of one text reads it in the same way when something else follows. -/
def Agrees {α : Type} (text rest : List Char) (alone within : Except Fault (α × Cursor)) : Prop :=
  ∀ a c₁, alone = .ok (a, c₁) → c₁.rest <:+ text ∧ ∃ c₂, within = .ok (a, c₂) ∧ c₂.rest = c₁.rest ++ rest

theorem agrees_error {α : Type} (fault : Fault) (within : Except Fault (α × Cursor)) :
    Agrees text rest (.error fault) within := fun _ _ h ↦ by cases h

theorem agrees_ok {α : Type} (ht : c₀.rest <:+ text) (h : c.rest = c₀.rest ++ rest) (a : α) :
    Agrees text rest (.ok (a, c₀)) (.ok (a, c)) := by
  rintro a' c₁ ha
  cases ha
  exact ⟨ht, c, rfl, h⟩

theorem digits_append (hrest : Closes rest) (h : c.rest = c₀.rest ++ rest) :
    ∃ ds after₀ after, digits c₀ = (ds, after₀) ∧ digits c = (ds, after) ∧ after₀.rest <:+ c₀.rest ∧
      after.rest = after₀.rest ++ rest := by
  have hrun : (c₀.rest ++ rest).takeWhile Char.isDigit = c₀.rest.takeWhile Char.isDigit := by
    have hnil : rest.takeWhile Char.isDigit = [] := by
      cases rest with
      | nil => rfl
      | cons y ys => simp [hrest.not_digit y rfl]
    rw [List.takeWhile_append, hnil, List.append_nil]
    split
    next hall => exact ((List.takeWhile_sublist _).eq_of_length hall).symm
    · rfl
  refine ⟨_, _, ⟨(c₀.rest ++ rest).drop (c₀.rest.takeWhile Char.isDigit).length, c.line,
    c.column + (c₀.rest.takeWhile Char.isDigit).length⟩, rfl, ?_, List.drop_suffix _ _, ?_⟩
  · simp only [digits, h, hrun]
  · exact List.drop_append_of_le_length (List.takeWhile_sublist _).length_le

/-- Where the shorter text ends, the longer one goes on with something that closes a number. -/
theorem peek?_append (hrest : Closes rest) (h : c.rest = c₀.rest ++ rest) :
    (c₀.peek? = none ∧ (c.peek? = none ∨ c.peek? = some ',' ∨ c.peek? = some ']' ∨ c.peek? = some '\x7d')) ∨
      ∃ y t, c₀.rest = y :: t ∧ c.rest = y :: (t ++ rest) := by
  cases hrest₀ : c₀.rest with
  | nil =>
    rw [hrest₀, List.nil_append] at h
    refine .inl ⟨?_, peek?_closes (h ▸ hrest)⟩
    rw [Cursor.peek?, hrest₀]
    rfl
  | cons y t =>
    rw [hrest₀] at h
    exact .inr ⟨y, t, rfl, h⟩

theorem real_agrees (ht : c₀.rest <:+ text) (h : c.rest = c₀.rest ++ rest) :
    Agrees text rest (real c₀ negative significand power) (real c negative significand power) := by
  unfold real
  cases scale? (UInt64.ofNat significand).toFloat power with
  | none => exact agrees_error _ _
  | some x => exact agrees_ok ht h _

theorem wholeNumber_agrees (ht : c₀.rest <:+ text) (h : c.rest = c₀.rest ++ rest) :
    Agrees text rest (wholeNumber c₀ negative significand dropped) (wholeNumber c negative significand dropped) := by
  unfold wholeNumber
  split
  · exact real_agrees ht h
  split
  · exact agrees_ok ht h _
  · split
    · exact agrees_ok ht h _
    · exact agrees_ok ht h _

def exponentDigits (c : Cursor) (negative : Bool) (significand : Nat) (power : Int) (minus : Bool) :
    Except Fault (Number × Cursor) :=
  match digits c with
  | ([], _) => if c.rest.isEmpty then c.fail .endInValue else c.failNext .badNumber
  | (ds, after) =>
    match exponentOverflow? 0 ds with
    | some read =>
      if significand ≠ 0 && !minus then
        .error ⟨.numberTooLarge, some ⟨c.line, c.column + read⟩, []⟩
      else .ok (.real (if negative then -0.0 else 0.0), after)
    | none =>
      let e : Int := Number.ofDigits 10 ds
      real after negative significand (if minus then power - e else power + e)

def exponentSign (c : Cursor) : Bool × Cursor :=
  match c.peek? with
  | some '+' => (false, c.advance)
  | some '-' => (true, c.advance)
  | _ => (false, c)

theorem exponent_eq (c : Cursor) (negative : Bool) (significand : Nat) (power : Int) :
    exponent c negative significand power =
      exponentDigits (exponentSign c.advance).2 negative significand power (exponentSign c.advance).1 := rfl

theorem exponentDigits_agrees (hrest : Closes rest) (ht : c₀.rest <:+ text) (h : c.rest = c₀.rest ++ rest) :
    Agrees text rest (exponentDigits c₀ negative significand power minus)
      (exponentDigits c negative significand power minus) := by
  obtain ⟨ds, after₀, after, hd₀, hd, hsuffix, hafter⟩ := digits_append hrest h
  rw [exponentDigits, exponentDigits, hd₀, hd]
  cases ds with
  | nil =>
    dsimp only
    split <;> exact agrees_error _ _
  | cons d ds =>
    dsimp only
    split
    · split
      · exact agrees_error _ _
      · exact agrees_ok (hsuffix.trans ht) hafter _
    · exact real_agrees (hsuffix.trans ht) hafter

theorem exponentSign_append {y : Char} {t : List Char} (h₀ : c₀.rest = y :: t) (h : c.rest = y :: t ++ rest) :
    (exponentSign c).1 = (exponentSign c₀).1 ∧ (exponentSign c₀).2.rest <:+ c₀.rest ∧
      (exponentSign c).2.rest = (exponentSign c₀).2.rest ++ rest := by
  have hnext : c.advance.rest = c₀.advance.rest ++ rest := by
    rw [Cursor.rest_advance h₀, Cursor.rest_advance h]
    rfl
  rw [exponentSign, exponentSign, Cursor.peek?_eq h₀, Cursor.peek?_eq h]
  have hsuffix := Cursor.advance_suffix h₀
  split
  · exact ⟨rfl, hsuffix, hnext⟩
  · exact ⟨rfl, hsuffix, hnext⟩
  · exact ⟨rfl, List.suffix_rfl, h.trans (h₀ ▸ rfl)⟩

theorem exponent_agrees {x : Char} {t : List Char} (hrest : Closes rest) (ht : c₀.rest <:+ text)
    (h₀ : c₀.rest = x :: t) (h : c.rest = x :: (t ++ rest)) :
    Agrees text rest (exponent c₀ negative significand power) (exponent c negative significand power) := by
  have hadvance₀ := Cursor.rest_advance h₀
  have hadvance := Cursor.rest_advance h
  replace ht := (Cursor.advance_suffix h₀).trans ht
  rw [exponent_eq, exponent_eq]
  cases t with
  | nil =>
    have hnone : exponentSign c₀.advance = (false, c₀.advance) := by simp [exponentSign, Cursor.peek?, hadvance₀]
    rw [hnone, exponentDigits, digits, hadvance₀]
    exact agrees_error _ _
  | cons y t =>
    obtain ⟨hsign, hsuffix, hafter⟩ := exponentSign_append hadvance₀ hadvance
    rw [hsign]
    exact exponentDigits_agrees hrest (hsuffix.trans ht) hafter

theorem fraction_agrees {x : Char} {t : List Char} (hrest : Closes rest) (ht : c₀.rest <:+ text)
    (h₀ : c₀.rest = x :: t) (h : c.rest = x :: (t ++ rest)) :
    Agrees text rest (fraction c₀ negative significand dropped) (fraction c negative significand dropped) := by
  have hadvance : c.advance.rest = c₀.advance.rest ++ rest := by
    rw [Cursor.rest_advance h₀, Cursor.rest_advance h]
  replace ht := (Cursor.advance_suffix h₀).trans ht
  obtain ⟨ds, after₀, after, hd₀, hd, hsuffix, hafter⟩ := digits_append hrest hadvance
  rw [fraction, fraction]
  dsimp only
  rw [hd₀, hd]
  cases ds with
  | nil => exact agrees_error _ _
  | cons d ds =>
    dsimp only
    rcases peek?_append hrest hafter with ⟨hpeek₀, hpeek⟩ | ⟨y, t, hrest₀, hcons⟩
    · rw [hpeek₀]
      rcases hpeek with hp | hp | hp | hp <;> rw [hp] <;> exact real_agrees (hsuffix.trans ht) hafter
    · rw [Cursor.peek?_eq hrest₀, Cursor.peek?_eq hcons]
      split
      · exact exponent_agrees hrest (hsuffix.trans ht) hrest₀ hcons
      · exact exponent_agrees hrest (hsuffix.trans ht) hrest₀ hcons
      · exact real_agrees (hsuffix.trans ht) hafter

theorem number_agrees (hrest : Closes rest) (ht : c₀.rest <:+ text) (h : c.rest = c₀.rest ++ rest) :
    Agrees text rest (number c₀ negative) (number c negative) := by
  obtain ⟨ds, after₀, after, hd₀, hd, hsuffix, hafter⟩ := digits_append hrest h
  rw [number, number, hd₀, hd]
  cases ds with
  | nil =>
    dsimp only
    split <;> exact agrees_error _ _
  | cons d ds =>
    dsimp only
    split
    · exact agrees_error _ _
    rcases peek?_append hrest hafter with ⟨hpeek₀, hpeek⟩ | ⟨y, t, hrest₀, hcons⟩
    · rw [hpeek₀]
      rcases hpeek with hp | hp | hp | hp <;> rw [hp] <;> exact wholeNumber_agrees (hsuffix.trans ht) hafter
    · rw [Cursor.peek?_eq hrest₀, Cursor.peek?_eq hcons]
      split
      · exact fraction_agrees hrest (hsuffix.trans ht) hrest₀ hcons
      · exact exponent_agrees hrest (hsuffix.trans ht) hrest₀ hcons
      · exact exponent_agrees hrest (hsuffix.trans ht) hrest₀ hcons
      · exact wholeNumber_agrees (hsuffix.trans ht) hafter

end Context

end Lexeme

end CodeRepair.Json

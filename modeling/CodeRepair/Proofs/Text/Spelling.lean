import CodeRepair.Proofs.Text.LowerCase
import CodeRepair.Proofs.Text.Trim
import CodeRepair.Proofs.Text.Utf8

/-!
The one spelling of a text, in lower case and without blanks around it. Lower case is final: no letter that a capital
is lowered to is lowered again, and none is blank. So the one spelling of a text is its own, and texts that differ in
blanks around them and in the case of ASCII letters share it.
-/
namespace CodeRepair.Text

variable {c d : Char} {cs before after : List Char} {r other : LowerRun} {n : Nat}

section Runs

namespace LowerRun

def Lowers (r : LowerRun) (n : Nat) : Prop := r.first ≤ n ∧ n ≤ r.last ∧ (n - r.first) % r.stride = 0

def low (r : LowerRun) : Nat := (r.first + r.shift).toNat

def high (r : LowerRun) : Nat := (r.last + r.shift).toNat

/-- Whether the letters of a run are plainly no capitals of another: they lie apart, or they alternate with them. -/
def misses (r other : LowerRun) : Bool :=
  Nat.blt r.high other.first || Nat.blt other.last r.low ||
    other.stride = 2 && (r.stride = 2 || r.low = r.high) && r.low % 2 ≠ other.first % 2

/-- Between these code points are no ASCII capitals, no white space, no dotted capital I and no surrogates. -/
def openRanges : List (Nat × Nat) :=
  [(0x5A, 0x85), (0xA0, 0x130), (0x130, 0x1680), (0x1680, 0x2000), (0x205F, 0x3000), (0x3000, 0xD800),
    (0xDFFF, 0x110000)]

def isFinal (r : LowerRun) : Bool :=
  (openRanges.any fun range ↦ Nat.blt range.1 r.low && Nat.blt r.high range.2) && lowerRuns.all r.misses

theorem lowerRuns_final : lowerRuns.all isFinal = true := by decide +kernel

theorem not_lowers_of_misses (h : r.misses other = true) (hlow : 0x5A < r.low) (hn : r.Lowers n) :
    ¬ other.Lowers (n + r.shift).toNat := by
  obtain ⟨hfirst, hlast, hstride⟩ := hn
  rintro ⟨hfirst', hlast', hstride'⟩
  simp only [misses, Bool.or_eq_true, Bool.and_eq_true, Nat.blt_eq, decide_eq_true_eq] at h
  simp only [low, high] at h hlow
  obtain (h | h) | ⟨⟨hother, h | h⟩, hparity⟩ := h
  · omega
  · omega
  · rw [hother] at hstride'
    rw [h] at hstride
    omega
  · rw [hother] at hstride'
    omega

end LowerRun

theorem isBlank_iff : isBlank c = true ↔ 0x09 ≤ c.toNat ∧ c.toNat ≤ 0x0D ∨ c.toNat = 0x20 ∨ c.toNat = 0x85 ∨
    c.toNat = 0xA0 ∨ c.toNat = 0x1680 ∨ 0x2000 ≤ c.toNat ∧ c.toNat ≤ 0x200A ∨ c.toNat = 0x2028 ∨ c.toNat = 0x2029 ∨
      c.toNat = 0x202F ∨ c.toNat = 0x205F ∨ c.toNat = 0x3000 := by
  simp only [isBlank]
  split
  all_goals
    simp only [Bool.or_eq_true, Bool.and_eq_true, decide_eq_true_eq]
    omega

theorem open_char {range : Nat × Nat} (hrange : range ∈ LowerRun.openRanges) (hlow : range.1 < c.toNat)
    (hhigh : c.toNat < range.2) : isBlank c = false ∧ c.toNat ≠ 0x130 ∧ c.toLower = c := by
  have hopen : 0x5A < c.toNat ∧ c.toNat ≠ 0x130 ∧ ¬ isBlank c = true := by
    rw [isBlank_iff]
    simp only [LowerRun.openRanges, List.mem_cons, List.not_mem_nil, or_false] at hrange
    rcases hrange with rfl | rfl | rfl | rfl | rfl | rfl | rfl <;> omega
  refine ⟨Bool.not_eq_true _ ▸ hopen.2.2, hopen.2.1, dif_neg fun hcapital ↦ ?_⟩
  have hle : c.toNat ≤ 90 := hcapital.2
  omega

/-- A letter that no run lowers and that lies in an open range is lowered to itself. -/
theorem lowerChar_eq_self (hlower : c.toLower = c) (hdotted : c.toNat ≠ 0x130)
    (hruns : ∀ r ∈ lowerRuns, ¬ r.Lowers c.toNat) : lowerChar c = [c] := by
  rw [lowerChar, if_neg hdotted, hlower]
  split
  · rfl
  · split
    next r hfound =>
      have hbounds := List.find?_some hfound
      simp only [Bool.and_eq_true, decide_eq_true_eq] at hbounds
      rw [if_neg]
      intro hstride
      exact hruns r (List.mem_of_find?_eq_some hfound) ⟨hbounds.1, hbounds.2, hstride⟩
    · rfl

theorem toNat_open {range : Nat × Nat} (hrange : range ∈ LowerRun.openRanges) (hlow : range.1 < n)
    (hhigh : n < range.2) : 0x5A < n ∧ (Char.ofNat n).toNat = n := by
  have hbounds : ∀ range ∈ LowerRun.openRanges,
      0x5A ≤ range.1 ∧ range.2 ≤ 0x110000 ∧ (range.2 ≤ 0xD800 ∨ 0xDFFF ≤ range.1) := by decide
  have hrange := hbounds range hrange
  exact ⟨by omega, Utf8.toNat_char (by omega)⟩

theorem run_letter (hr : r ∈ lowerRuns) (hc : r.Lowers n) :
    lowerChar (Char.ofNat (n + r.shift).toNat) = [Char.ofNat (n + r.shift).toNat] ∧
      isBlank (Char.ofNat (n + r.shift).toNat) = false := by
  have hfinal := List.all_eq_true.1 LowerRun.lowerRuns_final r hr
  simp only [LowerRun.isFinal, Bool.and_eq_true, List.any_eq_true, Nat.blt_eq, List.all_eq_true] at hfinal
  obtain ⟨⟨range, hrange, hlow, hhigh⟩, hmisses⟩ := hfinal
  have hle : r.low ≤ (n + r.shift).toNat ∧ (n + r.shift).toNat ≤ r.high := by
    obtain ⟨hfirst, hlast, -⟩ := hc
    simp only [LowerRun.low, LowerRun.high]
    omega
  have hlow' := hlow.trans_le hle.1
  have hhigh' := hle.2.trans_lt hhigh
  obtain ⟨-, hcode⟩ := toNat_open hrange hlow' hhigh'
  obtain ⟨hblank, hdotted, hlower⟩ := open_char hrange (hcode.symm ▸ hlow') (hcode.symm ▸ hhigh')
  refine ⟨lowerChar_eq_self hlower hdotted ?_, hblank⟩
  rw [hcode]
  intro other hother
  exact LowerRun.not_lowers_of_misses (hmisses other hother) (toNat_open hrange hlow (hle.1.trans_lt hhigh')).1 hc

theorem lowerChar_cases (c : Char) : lowerChar c = [c] ∨ c.toNat < 0x80 ∧ lowerChar c = [c.toLower] ∨
    lowerChar c = ['i', '\u0307'] ∨
    ∃ r ∈ lowerRuns, r.Lowers c.toNat ∧ lowerChar c = [Char.ofNat (c.toNat + r.shift).toNat] := by
  rw [lowerChar]
  split
  next hascii => exact .inr (.inl ⟨hascii, rfl⟩)
  split
  · exact .inr (.inr (.inl rfl))
  split
  next r hfound =>
    split
    next hstride =>
      have hbounds := List.find?_some hfound
      simp only [Bool.and_eq_true, decide_eq_true_eq] at hbounds
      exact .inr (.inr (.inr ⟨r, List.mem_of_find?_eq_some hfound, ⟨hbounds.1, hbounds.2, hstride⟩, rfl⟩))
    · exact .inl rfl
  · exact .inl rfl

end Runs

section Final

def Lowered (c : Char) : Prop := lowerChar c = [c]

instance (c : Char) : Decidable (Lowered c) := inferInstanceAs (Decidable (_ = _))

theorem Lowered.ne_sigma (h : Lowered c) : c ≠ 'Σ' := by
  rintro rfl
  exact absurd h (by decide)

theorem lowered_toLower (hc : c.toNat < 0x80) : Lowered c.toLower ∧ isBlank c.toLower = isBlank c := by
  refine ascii_forall (P := fun c ↦ Lowered c.toLower ∧ isBlank c.toLower = isBlank c) ?_ hc
  decide +kernel

/-- Lowering a character is final, and makes no blank of one that is none. -/
theorem lowered_lowerChar (hc : c ≠ 'Σ') (hd : d ∈ lowerChar c) :
    Lowered d ∧ (isBlank c = false → isBlank d = false) := by
  obtain hself | ⟨hascii, hlower⟩ | hdotted | ⟨r, hr, hcapital, hlower⟩ := lowerChar_cases c
  · rw [hself, List.mem_singleton] at hd
    subst hd
    exact ⟨hself, id⟩
  · rw [hlower, List.mem_singleton] at hd
    subst hd
    obtain ⟨hlowered, hblank⟩ := lowered_toLower hascii
    exact ⟨hlowered, hblank.trans⟩
  · rw [hdotted] at hd
    have hall : ['i', '\u0307'].all fun d ↦ decide (Lowered d ∧ isBlank d = false) := by decide +kernel
    obtain ⟨hlowered, hblank⟩ := decide_eq_true_iff.1 (List.all_eq_true.1 hall d hd)
    exact ⟨hlowered, fun _ ↦ hblank⟩
  · rw [hlower, List.mem_singleton] at hd
    subst hd
    obtain ⟨hlowered, hblank⟩ := run_letter hr hcapital
    exact ⟨hlowered, fun _ ↦ hblank⟩

theorem lowered_lowerAt (before after : List Char) (hd : d ∈ lowerAt before c after) :
    Lowered d ∧ (isBlank c = false → isBlank d = false) := by
  rw [lowerAt] at hd
  split at hd
  · have hsmall : Lowered 'ς' ∧ Lowered 'σ' ∧ isBlank 'ς' = false ∧ isBlank 'σ' = false := by decide +kernel
    obtain ⟨hfinal, hmiddle, hfinal', hmiddle'⟩ := hsmall
    rw [List.mem_singleton.1 hd]
    split
    · exact ⟨hfinal, fun _ ↦ hfinal'⟩
    · exact ⟨hmiddle, fun _ ↦ hmiddle'⟩
  next hc => exact lowered_lowerChar hc hd

theorem lowered_lower (cs : List Char) : ∀ d ∈ lower cs, Lowered d := by
  have hall (before : List Char) : ∀ d ∈ lowerFrom before cs, Lowered d := by
    induction cs generalizing before with
    | nil => exact nofun
    | cons c cs ih =>
      rw [lowerFrom_cons]
      exact List.forall_mem_append.2 ⟨fun d hd ↦ (lowered_lowerAt before cs hd).1, ih (c :: before)⟩
  exact hall []

theorem lower_of_lowered (h : ∀ c ∈ cs, Lowered c) : lower cs = cs := by
  have hall (before : List Char) : lowerFrom before cs = cs := by
    induction cs generalizing before with
    | nil => rfl
    | cons c cs ih =>
      obtain ⟨hc, hcs⟩ := List.forall_mem_cons.1 h
      have hself : lowerAt before c cs = [c] := by rw [lowerAt, if_neg hc.ne_sigma, hc]
      rw [lowerFrom_cons, hself, ih hcs]
      rfl
  exact hall []

/-- Lower case is its own lower case. -/
theorem lower_lower (cs : List Char) : lower (lower cs) = lower cs := lower_of_lowered (lowered_lower cs)

theorem lowerAt_ne_nil (before : List Char) (c : Char) (after : List Char) : lowerAt before c after ≠ [] := by
  rw [lowerAt]
  split
  · exact List.cons_ne_nil _ _
  · exact lowerChar_ne_nil c

theorem trim_lower (h : trim cs = cs) : trim (lower cs) = lower cs := by
  obtain ⟨hstart, hend⟩ := trim_eq_self_iff.1 h
  rw [trimStart_eq_self_iff] at hstart
  rw [trimEnd_eq_self_iff] at hend
  refine trim_eq_self_iff.2 ⟨trimStart_eq_self_iff.2 ?_, trimEnd_eq_self_iff.2 ?_⟩
  · cases cs with
    | nil => simp [lower, lowerFrom]
    | cons c cs =>
      rw [lower, lowerFrom_cons, List.head?_append_of_ne_nil _ (lowerAt_ne_nil _ _ _)]
      intro d hd
      exact (lowered_lowerAt [] cs (List.mem_of_mem_head? hd)).2 (hstart c rfl)
  · obtain rfl | ⟨init, c, rfl⟩ := List.eq_nil_or_concat' cs
    · simp [lower, lowerFrom]
    · have hlast : lowerFrom (init.reverse ++ []) [c] = lowerAt (init.reverse ++ []) c [] := by
        rw [lowerFrom_cons, lowerFrom, List.append_nil]
      rw [lower, lowerFrom_append, hlast, List.getLast?_append_of_ne_nil _ (lowerAt_ne_nil _ _ _)]
      intro d hd
      exact (lowered_lowerAt _ [] (List.mem_of_mem_getLast? hd)).2 (hend c (by simp))

end Final

section Respelled

/-- Texts that differ in the blanks around them and in the case of ASCII letters only. -/
inductive Respelled : List Char → List Char → Prop
  | around {lead core tail lead' core' tail' : List Char} (hcase : core.map Char.toLower = core'.map Char.toLower)
      (hlead : isAllBlank lead = true) (htail : isAllBlank tail = true) (hlead' : isAllBlank lead' = true)
      (htail' : isAllBlank tail' = true) : Respelled (lead ++ (core ++ tail)) (lead' ++ (core' ++ tail'))

theorem trim_around {lead tail : List Char} (hlead : isAllBlank lead = true) (htail : isAllBlank tail = true)
    (core : List Char) : trim (lead ++ (core ++ tail)) = trim core := by
  simp only [isAllBlank, List.all_eq_true] at hlead htail
  obtain ⟨front, rest, hcore, hfront, hrest⟩ := trim_blanks core
  cases hmiddle : trim core with
  | nil =>
    rw [hmiddle] at hcore
    rw [trim_eq_nil_iff, isAllBlank, List.all_eq_true, hcore]
    simp only [List.forall_mem_append]
    exact ⟨hlead, ⟨hfront, List.forall_mem_nil _, hrest⟩, htail⟩
  | cons x middle =>
    have htight : trim (x :: middle) = x :: middle := by rw [← hmiddle, trim_trim]
    have hx : isBlank x = false := trimStart_eq_self_iff.1 (trim_eq_self_iff.1 htight).1 x rfl
    have hwhole : lead ++ (core ++ tail) = (lead ++ front) ++ x :: (middle ++ (rest ++ tail)) := by
      rw [hcore, hmiddle]
      simp
    have hstart : trimStart (lead ++ front) = [] :=
      List.dropWhile_eq_nil_iff.2 (List.forall_mem_append.2 ⟨hlead, hfront⟩)
    have hend : trimEnd ([] ++ (x :: middle ++ (rest ++ tail))) = [] ++ (x :: middle) :=
      trimEnd_before (List.cons_ne_nil _ _) htight (List.forall_mem_append.2 ⟨hrest, htail⟩)
    rw [hwhole, trim, trimStart_append _ hx, hstart]
    exact hend

theorem isBlank_toLower (c : Char) : isBlank c.toLower = isBlank c := by
  by_cases hc : c.toNat < 0x80
  · exact (lowered_toLower hc).2
  · rw [toLower_of_not_ascii hc]

theorem trim_map_toLower (cs : List Char) : trim (cs.map Char.toLower) = (trim cs).map Char.toLower := by
  have hblank : isBlank ∘ Char.toLower = isBlank := funext isBlank_toLower
  rw [trim, trimEnd, dropEndWhile, trimStart, List.dropWhile_map, hblank, ← List.map_reverse, List.dropWhile_map,
    hblank, ← List.map_reverse]
  rfl

/-- Texts that differ in such ways have one spelling. -/
theorem Respelled.lower_trim {ds : List Char} (h : Respelled cs ds) : lower (trim cs) = lower (trim ds) := by
  cases h with
  | around hcase hlead htail hlead' htail' =>
    rw [trim_around hlead htail, trim_around hlead' htail']
    apply lower_eq_of_map_toLower
    rw [← trim_map_toLower, hcase, trim_map_toLower]

end Respelled

end CodeRepair.Text

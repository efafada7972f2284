import CodeRepair.Text.LowerCase
import Mathlib.Data.List.Infix

/-!
The lower case of a text inside another. What stands around it matters to capital sigmas alone, which are lowered in two
ways; and the case of ASCII letters matters nowhere.
-/
namespace CodeRepair.Text

variable {c : Char} {cs pattern before before' after after' : List Char}

/-- Whether a capital sigma between these ends a word; what stands before it is given from it outwards. -/
def endsWord (before after : List Char) : Bool := meetsCased before && !meetsCased after

def lowerAt (before : List Char) (c : Char) (after : List Char) : List Char :=
  if c = 'Σ' then [if endsWord before after then 'ς' else 'σ'] else lowerChar c

def lowerWithin (before : List Char) : List Char → List Char → List Char
  | [], _ => []
  | c :: cs, after => lowerAt before c (cs ++ after) ++ lowerWithin (c :: before) cs after

theorem toNat_eq_sigma : c.toNat = 0x3A3 ↔ c = 'Σ' := by
  constructor
  · intro h
    rw [← Char.ofNat_toNat c, h]
  · rintro rfl
    rfl

theorem meetsCased_cons (c : Char) (cs : List Char) :
    meetsCased (c :: cs) = if isCaseIgnorable c then meetsCased cs else isCased c := by
  cases h : isCaseIgnorable c <;> simp [meetsCased, h]

theorem lowerFrom_cons (before : List Char) (c : Char) (rest : List Char) :
    lowerFrom before (c :: rest) = lowerAt before c rest ++ lowerFrom (c :: before) rest := by
  rw [lowerFrom, lowerAt, endsWord]
  simp only [toNat_eq_sigma]
  split
  · cases meetsCased before && !meetsCased rest <;> rfl
  · rfl

theorem lowerChar_ne_nil (c : Char) : lowerChar c ≠ [] := by
  rw [lowerChar]
  split
  · exact List.cons_ne_nil _ _
  · split
    · exact List.cons_ne_nil _ _
    · split
      · split <;> exact List.cons_ne_nil _ _
      · exact List.cons_ne_nil _ _

theorem lower_ne_nil (h : cs ≠ []) : lower cs ≠ [] := by
  cases cs with
  | nil => exact absurd rfl h
  | cons c cs =>
    rw [lower, lowerFrom_cons, lowerAt]
    split
    · exact List.cons_ne_nil _ _
    · exact List.append_ne_nil_of_left_ne_nil (lowerChar_ne_nil c) _

theorem lowerFrom_append (before cs after : List Char) :
    lowerFrom before (cs ++ after) = lowerWithin before cs after ++ lowerFrom (cs.reverse ++ before) after := by
  induction cs generalizing before with
  | nil => rfl
  | cons c cs ih =>
    rw [List.cons_append, lowerFrom_cons, ih, lowerWithin]
    simp

theorem lowerWithin_nil (before cs : List Char) : lowerWithin before cs [] = lowerFrom before cs := by
  have h := lowerFrom_append before cs []
  simpa [lowerFrom] using h.symm

theorem lower_around (front cs rest : List Char) : lower (front ++ cs ++ rest) =
    lowerWithin [] front (cs ++ rest) ++ lowerWithin front.reverse cs rest ++
      lowerFrom (cs.reverse ++ front.reverse) rest := by
  rw [lower, List.append_assoc, lowerFrom_append, lowerFrom_append]
  simp

section Unified

/-- The small sigmas as one. -/
def unify (c : Char) : Char := if c = 'ς' then 'σ' else c

theorem map_unify_eq_self (h : ∀ c ∈ cs, c ≠ 'ς') : cs.map unify = cs :=
  (List.map_congr_left fun c hc ↦ if_neg (h c hc)).trans (List.map_id cs)

theorem map_unify_lowerAt (before : List Char) (c : Char) (after : List Char) :
    (lowerAt before c after).map unify = (lowerChar c).map unify := by
  rw [lowerAt]
  split
  next hc =>
    subst hc
    cases endsWord before after <;> decide
  · rfl

/-- With the small sigmas as one, every character is lowered on its own. -/
theorem map_unify_lowerFrom (before cs : List Char) :
    (lowerFrom before cs).map unify = cs.flatMap fun c ↦ (lowerChar c).map unify := by
  induction cs generalizing before with
  | nil => rfl
  | cons c cs ih => rw [lowerFrom_cons, List.map_append, map_unify_lowerAt, ih, List.flatMap_cons]

def NoSigma (cs : List Char) : Prop := ∀ c ∈ cs, c ≠ 'σ' ∧ c ≠ 'ς'

theorem infix_map_unify (h : NoSigma pattern) : pattern <:+: cs.map unify ↔ pattern <:+: cs := by
  constructor
  · rintro ⟨front, rest, hsplit⟩
    obtain ⟨start, rest', rfl, hstart, -⟩ := List.map_eq_append_iff.1 hsplit.symm
    obtain ⟨front', piece, rfl, -, rfl⟩ := List.map_eq_append_iff.1 hstart
    have hpiece : piece.map unify = piece := by
      apply map_unify_eq_self
      rintro _ hc rfl
      exact (h _ (List.mem_map_of_mem hc)).1 rfl
    rw [hpiece]
    exact ⟨front', rest', rfl⟩
  · intro hfound
    rw [← map_unify_eq_self fun c hc ↦ (h c hc).2]
    exact hfound.map unify

/-- Text without small sigmas that is found in the lower case of a text is found in that of any text around it. -/
theorem infix_lower_around (h : NoSigma pattern) (hcs : pattern <:+: lower cs) (front rest : List Char) :
    pattern <:+: lower (front ++ cs ++ rest) := by
  rw [lower, ← infix_map_unify h, map_unify_lowerFrom] at hcs ⊢
  rw [List.flatMap_append, List.flatMap_append]
  exact hcs.trans ⟨_, _, rfl⟩

theorem infix_after_letter (h : NoSigma pattern) (hhead : pattern.head? ≠ some 'a') (hne : pattern ≠ [])
    (hfound : pattern <:+: lower ('a' :: cs)) : pattern <:+: lower cs := by
  rw [lower, ← infix_map_unify h, map_unify_lowerFrom] at hfound ⊢
  have hletter : (lowerChar 'a').map unify = ['a'] := rfl
  rw [List.flatMap_cons, hletter, List.singleton_append, List.infix_cons_iff, List.prefix_cons_iff] at hfound
  obtain (hnil | ⟨rest, rfl, -⟩) | hwithin := hfound
  · exact absurd hnil hne
  · exact absurd rfl hhead
  · exact hwithin

theorem infix_before_letter (h : NoSigma pattern) (hlast : pattern.getLast? ≠ some 'a') (hne : pattern ≠ [])
    (hfound : pattern <:+: lower (cs ++ ['a'])) : pattern <:+: lower cs := by
  rw [lower, ← infix_map_unify h, map_unify_lowerFrom] at hfound ⊢
  have hletter : ['a'].flatMap (fun c ↦ (lowerChar c).map unify) = ['a'] := rfl
  rw [List.flatMap_append, hletter, List.infix_concat_iff, List.suffix_concat_iff] at hfound
  obtain (hnil | ⟨front, rfl, -⟩) | hwithin := hfound
  · exact absurd hnil hne
  · exact absurd (List.getLast?_concat) hlast
  · exact hwithin

end Unified

section Ascii

def IsAscii (cs : List Char) : Prop := ∀ c ∈ cs, c.toNat < 0x80

theorem isAscii_iff : cs.all (·.toNat < 0x80) = true ↔ IsAscii cs := by
  simp only [List.all_eq_true, decide_eq_true_eq, IsAscii]

instance (cs : List Char) : Decidable (IsAscii cs) := decidable_of_iff _ isAscii_iff

theorem IsAscii.noSigma (h : IsAscii cs) : NoSigma cs := by
  intro c hc
  have hascii := h c hc
  constructor
  · rintro rfl
    exact absurd hascii (by decide)
  · rintro rfl
    exact absurd hascii (by decide)

theorem ascii_forall {P : Char → Prop} (h : ∀ n < 0x80, P (Char.ofNat n)) (hc : c.toNat < 0x80) : P c := by
  have hcode := h c.toNat hc
  rwa [Char.ofNat_toNat] at hcode

theorem toLower_of_not_ascii (h : ¬ c.toNat < 0x80) : c.toLower = c := by
  apply dif_neg
  intro hcapital
  have hle : c.toNat ≤ 90 := hcapital.2
  omega

/-- A character is treated as its lower case is, wherever it matters. -/
theorem toLower_alike (c : Char) : isCased c.toLower = isCased c ∧ isCaseIgnorable c.toLower = isCaseIgnorable c ∧
    lowerChar c.toLower = lowerChar c ∧ (c.toLower = 'Σ' ↔ c = 'Σ') := by
  by_cases hc : c.toNat < 0x80
  · refine ascii_forall (P := fun c ↦ isCased c.toLower = isCased c ∧ isCaseIgnorable c.toLower = isCaseIgnorable c ∧
      lowerChar c.toLower = lowerChar c ∧ (c.toLower = 'Σ' ↔ c = 'Σ')) ?_ hc
    decide +kernel
  · rw [toLower_of_not_ascii hc]
    exact ⟨rfl, rfl, rfl, Iff.rfl⟩

theorem meetsCased_map_toLower (cs : List Char) : meetsCased (cs.map Char.toLower) = meetsCased cs := by
  induction cs with
  | nil => rfl
  | cons c cs ih =>
    obtain ⟨hcased, hignorable, -⟩ := toLower_alike c
    rw [List.map_cons, meetsCased_cons, meetsCased_cons, ih, hcased, hignorable]

theorem lowerAt_map_toLower (before : List Char) (c : Char) (after : List Char) :
    lowerAt (before.map Char.toLower) c.toLower (after.map Char.toLower) = lowerAt before c after := by
  obtain ⟨-, -, hlower, hsigma⟩ := toLower_alike c
  simp [lowerAt, endsWord, meetsCased_map_toLower, hlower, hsigma]

theorem lowerFrom_map_toLower (before cs : List Char) :
    lowerFrom (before.map Char.toLower) (cs.map Char.toLower) = lowerFrom before cs := by
  induction cs generalizing before with
  | nil => rfl
  | cons c cs ih => rw [List.map_cons, lowerFrom_cons, lowerFrom_cons, lowerAt_map_toLower, ← List.map_cons, ih]

/-- Texts that differ in the case of ASCII letters only have the same lower case. -/
theorem lower_eq_of_map_toLower {ds : List Char} (h : cs.map Char.toLower = ds.map Char.toLower) :
    lower cs = lower ds := by
  rw [lower, lower, ← lowerFrom_map_toLower [] cs, h, lowerFrom_map_toLower]

theorem lowerAt_ascii (hc : c.toNat < 0x80) : IsAscii (lowerAt before c after) := by
  have hsigma : c ≠ 'Σ' := by
    rintro rfl
    exact absurd hc (by decide)
  rw [lowerAt, if_neg hsigma]
  refine ascii_forall (P := fun c ↦ IsAscii (lowerChar c)) ?_ hc
  decide +kernel

theorem IsAscii.lower (h : IsAscii cs) : IsAscii (lower cs) := by
  have hall (before : List Char) : IsAscii (lowerFrom before cs) := by
    induction cs generalizing before with
    | nil => exact nofun
    | cons c cs ih =>
      obtain ⟨hc, hcs⟩ := List.forall_mem_cons.1 h
      rw [lowerFrom_cons]
      exact List.forall_mem_append.2 ⟨lowerAt_ascii hc, ih hcs (c :: before)⟩
  exact hall []

end Ascii

section Sigmas

theorem meetsCased_ignorable (h : ∀ c ∈ cs, isCaseIgnorable c = true) (rest : List Char) :
    meetsCased (cs ++ rest) = meetsCased rest := by
  rw [meetsCased, List.dropWhile_append_of_pos h, meetsCased]

theorem meetsCased_append (h : ¬ ∀ c ∈ cs, isCaseIgnorable c = true) (rest : List Char) :
    meetsCased (cs ++ rest) = meetsCased cs := by
  induction cs with
  | nil => exact absurd nofun h
  | cons c cs ih =>
    rw [List.cons_append, meetsCased_cons, meetsCased_cons]
    split
    next hc =>
      apply ih
      intro hall
      exact h (List.forall_mem_cons.2 ⟨hc, hall⟩)
    · rfl

theorem not_meetsCased_ignorable (h : ∀ c ∈ cs, isCaseIgnorable c = true) : meetsCased cs = false := by
  have hnone := meetsCased_ignorable h []
  rwa [List.append_nil] at hnone

theorem meetsCased_mono (h : meetsCased cs = true) (rest : List Char) : meetsCased (cs ++ rest) = true := by
  by_cases hall : ∀ c ∈ cs, isCaseIgnorable c = true
  · rw [not_meetsCased_ignorable hall] at h
    cases h
  · rw [meetsCased_append hall, h]

/-- A capital sigma between these is lowered in a way that text around them can change: it ends a word as long as no
letter comes after, or it ends none as long as no letter comes before. -/
def Hangs (before after : List Char) : Prop :=
  meetsCased before.reverse = true ∧ (∀ c ∈ after, isCaseIgnorable c = true) ∨
    (∀ c ∈ before, isCaseIgnorable c = true) ∧ meetsCased after = false

/-- A text that is lowered in the same way wherever it stands. -/
def Settled (cs : List Char) : Prop := ∀ before after, cs = before ++ 'Σ' :: after → ¬ Hangs before after

theorem settled_of_not_mem (h : 'Σ' ∉ cs) : Settled cs := by
  rintro before after rfl
  exact absurd (List.mem_append_right before List.mem_cons_self) h

theorem endsWord_of_not_hangs (h : ¬ Hangs before after) (front rest : List Char) :
    endsWord (before.reverse ++ front) (after ++ rest) = endsWord before.reverse after := by
  simp only [Hangs, not_or, not_and, Bool.not_eq_false] at h
  obtain ⟨hends, hbegins⟩ := h
  rw [endsWord, endsWord]
  by_cases hbefore : ∀ c ∈ before, isCaseIgnorable c = true
  · have hafter := hbegins hbefore
    rw [hafter, meetsCased_mono hafter]
    simp
  · have hreverse : ¬ ∀ c ∈ before.reverse, isCaseIgnorable c = true := by simpa using hbefore
    rw [meetsCased_append hreverse]
    cases hmeets : meetsCased before.reverse with
    | false => rfl
    | true => rw [meetsCased_append (hends hmeets)]

theorem lowerWithin_congr (h : ∀ front rest, cs = front ++ 'Σ' :: rest →
      endsWord (front.reverse ++ before) (rest ++ after) = endsWord (front.reverse ++ before') (rest ++ after')) :
    lowerWithin before cs after = lowerWithin before' cs after' := by
  induction cs generalizing before before' with
  | nil => rfl
  | cons c cs ih =>
    have hc : lowerAt before c (cs ++ after) = lowerAt before' c (cs ++ after') := by
      rw [lowerAt, lowerAt]
      split
      next hsigma =>
        have hsame := h [] cs (by rw [hsigma]; rfl)
        rw [List.reverse_nil, List.nil_append, List.nil_append] at hsame
        rw [hsame]
      · rfl
    have hcs : lowerWithin (c :: before) cs after = lowerWithin (c :: before') cs after' := by
      apply ih
      intro front rest hsplit
      have hsame := h (c :: front) rest (by rw [hsplit]; rfl)
      simpa using hsame
    rw [lowerWithin, lowerWithin, hc, hcs]

theorem Settled.infix_lower (h : Settled cs) (front rest : List Char) : lower cs <:+: lower (front ++ cs ++ rest) := by
  have hsame : lowerWithin front.reverse cs rest = lower cs := by
    rw [lower, ← lowerWithin_nil]
    apply lowerWithin_congr
    intro before after hsplit
    simpa using endsWord_of_not_hangs (h before after hsplit) front.reverse rest
  rw [lower_around, hsame]
  exact ⟨_, _, rfl⟩

theorem endsWord_shorter {rest : List Char} (h : endsWord before (after ++ rest) = true) :
    endsWord before after = true := by
  rw [endsWord, Bool.and_eq_true, Bool.not_eq_true'] at h ⊢
  refine ⟨h.1, ?_⟩
  cases hmeets : meetsCased after with
  | false => rfl
  | true =>
    rw [meetsCased_mono hmeets] at h
    cases h.2

theorem endsWord_longer (h : endsWord before after = true) (front : List Char) :
    endsWord (before ++ front) after = true := by
  rw [endsWord, Bool.and_eq_true] at h ⊢
  exact ⟨meetsCased_mono h.1 front, h.2⟩

/-- The capital sigmas of a text that end words in one place do so in another. -/
def EndsLess (before after before' after' cs : List Char) : Prop := ∀ front rest, cs = front ++ 'Σ' :: rest →
  endsWord (front.reverse ++ before) (rest ++ after) = true → endsWord (front.reverse ++ before') (rest ++ after') = true

theorem EndsLess.head (h : EndsLess before after before' after' (c :: cs)) (hc : c = 'Σ')
    (hends : endsWord before (cs ++ after) = true) : endsWord before' (cs ++ after') = true :=
  h [] cs (by rw [hc]; rfl) hends

theorem EndsLess.tail (h : EndsLess before after before' after' (c :: cs)) :
    EndsLess (c :: before) after (c :: before') after' cs := by
  intro front rest hsplit hends
  have hless := h (c :: front) rest (by rw [hsplit]; rfl)
  simp only [List.reverse_cons, List.append_assoc, List.singleton_append] at hless
  exact hless hends

theorem count_lowerAt_le (h : c = 'Σ' → endsWord before after = true → endsWord before' after' = true) :
    (lowerAt before c after).count 'ς' ≤ (lowerAt before' c after').count 'ς' ∧
      (lowerAt before' c after').count 'σ' ≤ (lowerAt before c after).count 'σ' := by
  rw [lowerAt, lowerAt]
  split
  next hc =>
    cases hone : endsWord before after with
    | true =>
      rw [h hc hone]
      decide
    | false => cases endsWord before' after' <;> decide
  · exact ⟨Nat.le_refl _, Nat.le_refl _⟩

theorem count_lowerWithin_le (h : EndsLess before after before' after' cs) :
    (lowerWithin before cs after).count 'ς' ≤ (lowerWithin before' cs after').count 'ς' ∧
      (lowerWithin before' cs after').count 'σ' ≤ (lowerWithin before cs after).count 'σ' := by
  induction cs generalizing before before' with
  | nil => exact ⟨Nat.le_refl _, Nat.le_refl _⟩
  | cons c cs ih =>
    have hhead := count_lowerAt_le h.head
    have htail := ih h.tail
    simp only [lowerWithin, List.count_append]
    omega

theorem count_lowerWithin_lt {front rest : List Char}
    (h : EndsLess before after before' after' (front ++ 'Σ' :: rest))
    (hnot : endsWord (front.reverse ++ before) (rest ++ after) = false)
    (hends : endsWord (front.reverse ++ before') (rest ++ after') = true) :
    (lowerWithin before (front ++ 'Σ' :: rest) after).count 'ς' <
        (lowerWithin before' (front ++ 'Σ' :: rest) after').count 'ς' ∧
      (lowerWithin before' (front ++ 'Σ' :: rest) after').count 'σ' <
        (lowerWithin before (front ++ 'Σ' :: rest) after).count 'σ' := by
  induction front generalizing before before' with
  | nil =>
    simp only [List.reverse_nil, List.nil_append] at hnot hends h ⊢
    have htail := count_lowerWithin_le h.tail
    have hmedial : lowerAt before 'Σ' (rest ++ after) = ['σ'] := by simp [lowerAt, hnot]
    have hfinal : lowerAt before' 'Σ' (rest ++ after') = ['ς'] := by simp [lowerAt, hends]
    simp only [lowerWithin, hmedial, hfinal, List.count_append, List.count_singleton, beq_self_eq_true, if_true]
    simp
    omega
  | cons c front ih =>
    rw [List.cons_append] at h
    have hhead := count_lowerAt_le h.head
    simp only [List.reverse_cons, List.append_assoc, List.singleton_append] at hnot hends
    have htail := ih h.tail hnot hends
    simp only [List.cons_append, lowerWithin, List.count_append]
    omega

theorem lowerFrom_letter (before : List Char) : lowerFrom before ['a'] = ['a'] := rfl

section Letters

variable {front rest : List Char}

theorem not_infix_before_letter (hfront : meetsCased front.reverse = true)
    (hrest : ∀ c ∈ rest, isCaseIgnorable c = true) :
    ¬ lower (front ++ 'Σ' :: rest) <:+: lower (front ++ 'Σ' :: rest ++ ['a']) := by
  intro hfound
  have hless : EndsLess [] ['a'] [] [] (front ++ 'Σ' :: rest) := by
    intro before after _ hends
    rw [List.append_nil after]
    exact endsWord_shorter hends
  have hnot : endsWord (front.reverse ++ []) (rest ++ ['a']) = false := by
    rw [endsWord, meetsCased_ignorable hrest]
    exact Bool.and_false _
  have hends : endsWord (front.reverse ++ []) (rest ++ []) = true := by
    rw [endsWord, List.append_nil, List.append_nil, hfront, not_meetsCased_ignorable hrest]
    rfl
  have hlt := (count_lowerWithin_lt hless hnot hends).1
  have hle := hfound.sublist.count_le 'ς'
  rw [lower, lower, ← lowerWithin_nil, lowerFrom_append, lowerFrom_letter, List.count_append] at hle
  have hletter : ['a'].count 'ς' = 0 := rfl
  omega

theorem not_infix_after_letter (hfront : ∀ c ∈ front, isCaseIgnorable c = true) (hrest : meetsCased rest = false) :
    ¬ lower (front ++ 'Σ' :: rest) <:+: lower ('a' :: (front ++ 'Σ' :: rest)) := by
  intro hfound
  have hreverse : ∀ c ∈ front.reverse, isCaseIgnorable c = true := by simpa using hfront
  have hless : EndsLess [] [] ['a'] [] (front ++ 'Σ' :: rest) := by
    intro before after _ hends
    rw [List.append_nil] at hends
    exact endsWord_longer hends ['a']
  have hnot : endsWord (front.reverse ++ []) (rest ++ []) = false := by
    rw [endsWord, List.append_nil, not_meetsCased_ignorable hreverse]
    rfl
  have hends : endsWord (front.reverse ++ ['a']) (rest ++ []) = true := by
    rw [endsWord, List.append_nil, meetsCased_ignorable hreverse, hrest]
    rfl
  have hlt := (count_lowerWithin_lt hless hnot hends).2
  have hle := hfound.sublist.count_le 'σ'
  have hletter : (lowerAt [] 'a' (front ++ 'Σ' :: rest)).count 'σ' = 0 := rfl
  rw [lower, lower, lowerFrom_cons, ← lowerWithin_nil, ← lowerWithin_nil, List.count_append, hletter] at hle
  omega

end Letters

/-- A letter beside a text that is not settled, before it or after it, changes how it is lowered, so that it is found no
more. -/
theorem not_infix_of_not_settled (h : ¬ Settled cs) :
    ¬ lower cs <:+: lower (cs ++ ['a']) ∨ ¬ lower cs <:+: lower ('a' :: cs) := by
  simp only [Settled, not_forall, not_not] at h
  obtain ⟨before, after, rfl, ⟨hbefore, hafter⟩ | ⟨hbefore, hafter⟩⟩ := h
  · exact Or.inl (not_infix_before_letter hbefore hafter)
  · exact Or.inr (not_infix_after_letter hbefore hafter)

end Sigmas

end CodeRepair.Text

import CodeRepair.Text.Utf8
import Mathlib.Data.List.Basic
import Mathlib.Data.List.Induction

/-!
Decoding byte by byte. What a part of the bytes settles stays settled whatever follows; after it stands at most one
unfinished character, which the next bytes either complete or leave to be replaced.
-/
namespace CodeRepair.Text.Utf8

variable {s : State} {b : UInt8} {bs xs cut front rest : List UInt8} {value owed low high : Nat} {c : Char}
  {cs : List Char}

section Sizes

theorem width_pos (c : Char) : 0 < width c := by
  unfold width
  split_ifs <;> decide

theorem size_append (xs ys : List Char) : size (xs ++ ys) = size xs + size ys := by
  induction xs with
  | nil => rw [List.nil_append, size, Nat.zero_add]
  | cons c xs ih => rw [List.cons_append, size, size, ih, Nat.add_assoc]

end Sizes

section Settling

def settled (s : State) : List UInt8 → List Char
  | [] => []
  | b :: bs => (step s b).1 ++ settled (step s b).2 bs

def after (s : State) (bs : List UInt8) : State := bs.foldl (fun s b ↦ (step s b).2) s

theorem decodeFrom_append (s : State) (xs ys : List UInt8) :
    decodeFrom s (xs ++ ys) = settled s xs ++ decodeFrom (after s xs) ys := by
  induction xs generalizing s with
  | nil => rfl
  | cons b xs ih =>
    rw [List.cons_append, decodeFrom_cons, ih, settled, List.append_assoc]
    rfl

theorem decodeFrom_eq (s : State) (bs : List UInt8) : decodeFrom s bs = settled s bs ++ flush (after s bs) := by
  have h := decodeFrom_append s bs []
  rwa [List.append_nil] at h

theorem decode_eq (bs : List UInt8) : decode bs = settled .between bs ++ flush (after .between bs) :=
  decodeFrom_eq .between bs

theorem settled_append (s : State) (xs ys : List UInt8) :
    settled s (xs ++ ys) = settled s xs ++ settled (after s xs) ys := by
  induction xs generalizing s with
  | nil => rfl
  | cons b xs ih =>
    rw [List.cons_append, settled, ih, settled, List.append_assoc]
    rfl

theorem after_append (s : State) (xs ys : List UInt8) : after s (xs ++ ys) = after (after s xs) ys := List.foldl_append

theorem settled_concat (s : State) (bs : List UInt8) (b : UInt8) :
    settled s (bs ++ [b]) = settled s bs ++ (step (after s bs) b).1 := by
  rw [settled_append, settled, settled, List.append_nil]

theorem after_concat (s : State) (bs : List UInt8) (b : UInt8) : after s (bs ++ [b]) = (step (after s bs) b).2 :=
  after_append s bs [b]

theorem settled_front (bs rest : List UInt8) : settled .between bs <+: decode (bs ++ rest) := by
  rw [decode, decodeFrom_append]
  exact List.prefix_append _ _

end Settling

section Unfinished

/-- What a first byte of two, three or four leads to. -/
inductive Leads (b : UInt8) : State → Prop
  | two (h : 0xC2 ≤ b.toNat) (h' : b.toNat < 0xE0) : Leads b (.owing (b.toNat - 0xC0) 1 0x80 0xBF)
  | three (h : 0xE0 ≤ b.toNat) (h' : b.toNat < 0xF0) :
      Leads b (.owing (b.toNat - 0xE0) 2 (if b.toNat = 0xE0 then 0xA0 else 0x80) (if b.toNat = 0xED then 0x9F else 0xBF))
  | four (h : 0xF0 ≤ b.toNat) (h' : b.toNat ≤ 0xF4) :
      Leads b (.owing (b.toNat - 0xF0) 3 (if b.toNat = 0xF0 then 0x90 else 0x80) (if b.toNat = 0xF4 then 0x8F else 0xBF))

/-- Bytes that begin a character and do not end it, with the state after them. -/
inductive Unfinished : List UInt8 → State → Prop
  | lead {b : UInt8} {s : State} (h : Leads b s) : Unfinished [b] s
  | more {cut : List UInt8} {value owed low high : Nat} {b : UInt8} (h : Unfinished cut (.owing value owed low high))
      (howed : 1 < owed) (hb : low ≤ b.toNat ∧ b.toNat ≤ high) :
      Unfinished (cut ++ [b]) (.owing (value * 0x40 + (b.toNat - 0x80)) (owed - 1) 0x80 0xBF)

theorem start_ascii (h : b.toNat < 0x80) : start b = ([Char.ofNat b.toNat], .between) := by simp [start, h]

theorem Leads.start_eq (h : Leads b s) : start b = ([], s) := by
  cases h with
  | two h h' => rw [start, if_neg (by omega), if_neg (by omega), if_pos h']
  | three h h' =>
    rw [start, if_neg (by omega), if_neg (by omega), if_neg (by omega)]
    by_cases hlow : b.toNat = 0xE0
    · simp [hlow]
    · by_cases hhigh : b.toNat = 0xED
      · simp [hhigh]
      · simp [hlow, hhigh, h']
  | four h h' =>
    rw [start, if_neg (by omega), if_neg (by omega), if_neg (by omega), if_neg (by omega), if_neg (by omega),
      if_neg (by omega)]
    by_cases hlow : b.toNat = 0xF0
    · simp [hlow]
    · by_cases hhigh : b.toNat = 0xF4
      · simp [hhigh]
      · have hlt : b.toNat < 0xF4 := by omega
        simp [hlow, hhigh, hlt]

/-- A byte between two characters is a character, leads one, or is neither and replaced. -/
theorem start_cases (b : UInt8) : b.toNat < 0x80 ∨ (∃ s, Leads b s) ∨
    (¬ (b.toNat < 0x80 ∨ 0xC2 ≤ b.toNat ∧ b.toNat < 0xF5) ∧ start b = ([replacement], .between)) := by
  by_cases hascii : b.toNat < 0x80
  · exact .inl hascii
  by_cases hlead : 0xC2 ≤ b.toNat ∧ b.toNat < 0xF5
  · refine .inr (.inl ?_)
    by_cases htwo : b.toNat < 0xE0
    · exact ⟨_, .two hlead.1 htwo⟩
    by_cases hthree : b.toNat < 0xF0
    · exact ⟨_, .three (by omega) hthree⟩
    · exact ⟨_, .four (by omega) (by omega)⟩
  · refine .inr (.inr ⟨by omega, ?_⟩)
    rw [start, if_neg hascii]
    by_cases hlow : b.toNat < 0xC2
    · rw [if_pos hlow]
    · rw [if_neg hlow, if_neg (by omega), if_neg (by omega), if_neg (by omega), if_neg (by omega), if_neg (by omega),
        if_neg (by omega), if_neg (by omega)]

theorem Unfinished.owes (h : Unfinished cut s) : ∃ value owed low high, s = .owing value owed low high ∧
    1 ≤ owed ∧ 1 ≤ cut.length ∧ cut.length + owed ≤ 4 ∧ 0x80 ≤ low ∧ high ≤ 0xBF := by
  induction h with
  | lead h =>
    cases h with
    | two h h' => exact ⟨_, _, _, _, rfl, by simp⟩
    | three h h' =>
      refine ⟨_, _, _, _, rfl, by simp, by simp, by simp, ?_, ?_⟩
      · split <;> omega
      · split <;> omega
    | four h h' =>
      refine ⟨_, _, _, _, rfl, by simp, by simp, by simp, ?_, ?_⟩
      · split <;> omega
      · split <;> omega
  | more h howed hb ih =>
    obtain ⟨_, _, _, _, heq, hpos, hcut, hlength, -, -⟩ := ih
    cases heq
    refine ⟨_, _, _, _, rfl, by omega, by simp, ?_, by omega, by omega⟩
    rw [List.length_append, List.length_singleton]
    omega

theorem Unfinished.flush_eq (h : Unfinished cut s) : flush s = [replacement] := by
  obtain ⟨value, owed, low, high, rfl, -⟩ := h.owes
  rfl

theorem step_fits (hb : low ≤ b.toNat ∧ b.toNat ≤ high) (howed : 1 < owed) :
    step (.owing value owed low high) b = ([], .owing (value * 0x40 + (b.toNat - 0x80)) (owed - 1) 0x80 0xBF) := by
  rw [step, if_pos hb, if_neg (by omega)]

theorem step_last (hb : low ≤ b.toNat ∧ b.toNat ≤ high) (howed : owed ≤ 1) :
    step (.owing value owed low high) b = ([Char.ofNat (value * 0x40 + (b.toNat - 0x80))], .between) := by
  rw [step, if_pos hb, if_pos howed]

theorem step_unfit (hb : ¬ (low ≤ b.toNat ∧ b.toNat ≤ high)) :
    step (.owing value owed low high) b = (replacement :: (start b).1, (start b).2) := by
  rw [step, if_neg hb]

theorem Unfinished.settled_eq (h : Unfinished cut s) : settled .between cut = [] ∧ after .between cut = s := by
  induction h with
  | lead h => simp [settled, after, step, h.start_eq]
  | more h howed hb ih =>
    rw [settled_concat, after_concat, ih.1, ih.2, step_fits hb howed]
    exact ⟨rfl, rfl⟩

theorem Unfinished.decode_eq (h : Unfinished cut s) : decode cut = [replacement] := by
  rw [Utf8.decode_eq, h.settled_eq.1, h.settled_eq.2, h.flush_eq]
  rfl

theorem Unfinished.of_prefix (h : Unfinished cut s) (hxs : xs <+: cut) (hne : xs ≠ []) : ∃ s', Unfinished xs s' := by
  induction h with
  | lead h =>
    rcases List.prefix_concat_iff.1 (List.nil_append [_] ▸ hxs) with rfl | hnil
    · exact ⟨_, .lead h⟩
    · exact absurd (List.prefix_nil.1 hnil) hne
  | more h howed hb ih =>
    rcases List.prefix_concat_iff.1 hxs with rfl | hcut
    · exact ⟨_, .more h howed hb⟩
    · exact ih hcut

/-- After any bytes stands at most one unfinished character. -/
theorem exists_unfinished (bs : List UInt8) :
    after .between bs = .between ∨ ∃ front cut, bs = front ++ cut ∧ Unfinished cut (after .between bs) := by
  have hstart (bs : List UInt8) (b : UInt8) (hs : (step (after .between bs) b).2 = (start b).2) :
      after .between (bs ++ [b]) = .between ∨
        ∃ front cut, bs ++ [b] = front ++ cut ∧ Unfinished cut (after .between (bs ++ [b])) := by
    rw [after_concat, hs]
    rcases start_cases b with hascii | ⟨s, hlead⟩ | ⟨-, hneither⟩
    · exact .inl (by rw [start_ascii hascii])
    · refine .inr ⟨bs, [b], rfl, ?_⟩
      rw [hlead.start_eq]
      exact .lead hlead
    · exact .inl (by rw [hneither])
  induction bs using List.reverseRecOn with
  | nil => exact .inl rfl
  | append_singleton bs b ih =>
    rcases ih with hbetween | ⟨front, cut, rfl, hcut⟩
    · exact hstart bs b (by rw [hbetween, step])
    · obtain ⟨value, owed, low, high, hs, -⟩ := hcut.owes
      by_cases hb : low ≤ b.toNat ∧ b.toNat ≤ high
      · rw [after_concat, hs]
        rw [hs] at hcut
        by_cases howed : 1 < owed
        · refine .inr ⟨front, cut ++ [b], List.append_assoc _ _ _, ?_⟩
          rw [step_fits hb howed]
          exact .more hcut howed hb
        · exact .inl (by rw [step_last hb (by omega)])
      · exact hstart _ b (by rw [hs, step_unfit hb])

theorem decode_append_lead (front : List UInt8) (hb : b.toNat < 0x80 ∨ 0xC0 ≤ b.toNat) (bs : List UInt8) :
    decode (front ++ b :: bs) = decode front ++ decode (b :: bs) := by
  have hstep : decodeFrom (after .between front) (b :: bs) = flush (after .between front) ++ decode (b :: bs) := by
    rcases exists_unfinished front with hbetween | ⟨_, cut, -, hcut⟩
    · rw [hbetween]
      rfl
    · obtain ⟨value, owed, low, high, hs, -, -, -, hlow, hhigh⟩ := hcut.owes
      rw [hs, decodeFrom_cons, step_unfit (by omega)]
      rfl
  calc decode (front ++ b :: bs)
      = settled .between front ++ decodeFrom (after .between front) (b :: bs) := decodeFrom_append _ _ _
    _ = settled .between front ++ (flush (after .between front) ++ decode (b :: bs)) := by rw [hstep]
    _ = decode front ++ decode (b :: bs) := by rw [decode_eq front, List.append_assoc]

end Unfinished

section Characters

theorem ofNat_eq {n : Nat} (h : n = b.toNat) : UInt8.ofNat n = b := by rw [h, UInt8.ofNat_toNat]

theorem exists_byte {n : Nat} (h : n < 0x100) : ∃ b : UInt8, b.toNat = n := by
  refine ⟨UInt8.ofNat n, ?_⟩
  rw [UInt8.toNat_ofNat', Nat.mod_eq_of_lt h]

theorem toNat_char {n : Nat} (h : n < 0xD800 ∨ 0xE000 ≤ n ∧ n < 0x110000) : (Char.ofNat n).toNat = n := by
  have hvalid : n.isValidChar := by
    rw [Nat.isValidChar]
    omega
  rw [Char.ofNat, dif_pos hvalid]
  rfl

theorem toNat_valid (c : Char) : c.toNat < 0xD800 ∨ 0xE000 ≤ c.toNat ∧ c.toNat < 0x110000 := by
  have h : c.toNat < 0xD800 ∨ 0xDFFF < c.toNat ∧ c.toNat < 0x110000 := c.valid
  omega

theorem encodeChar_ascii (h : c.toNat < 0x80) : encodeChar c = [UInt8.ofNat c.toNat] := by rw [encodeChar, if_pos h]

theorem encodeChar_two (h : 0x80 ≤ c.toNat) (h' : c.toNat < 0x800) :
    encodeChar c = [UInt8.ofNat (0xC0 + c.toNat / 0x40), UInt8.ofNat (0x80 + c.toNat % 0x40)] := by
  have hlast : c.toNat / Nat.pow 2 0 = c.toNat := Nat.div_one _
  rw [encodeChar]
  dsimp only
  rw [if_neg (by omega), if_pos h', hlast]

theorem encodeChar_three (h : 0x800 ≤ c.toNat) (h' : c.toNat < 0x10000) :
    encodeChar c = [UInt8.ofNat (0xE0 + c.toNat / 0x1000), UInt8.ofNat (0x80 + c.toNat / 0x40 % 0x40),
      UInt8.ofNat (0x80 + c.toNat % 0x40)] := by
  have hlast : c.toNat / Nat.pow 2 0 = c.toNat := Nat.div_one _
  rw [encodeChar]
  dsimp only
  rw [if_neg (by omega), if_neg (by omega), if_pos h', hlast]

theorem encodeChar_four (h : 0x10000 ≤ c.toNat) :
    encodeChar c = [UInt8.ofNat (0xF0 + c.toNat / 0x40000), UInt8.ofNat (0x80 + c.toNat / 0x1000 % 0x40),
      UInt8.ofNat (0x80 + c.toNat / 0x40 % 0x40), UInt8.ofNat (0x80 + c.toNat % 0x40)] := by
  have hlast : c.toNat / Nat.pow 2 0 = c.toNat := Nat.div_one _
  rw [encodeChar]
  dsimp only
  rw [if_neg (by omega), if_neg (by omega), if_neg (by omega), hlast]

theorem Leads.owing (h : Leads b (.owing value owed low high)) :
    (owed = 1 ∧ 0xC2 ≤ b.toNat ∧ b.toNat < 0xE0 ∧ value = b.toNat - 0xC0) ∨
      (owed = 2 ∧ 0xE0 ≤ b.toNat ∧ b.toNat < 0xF0 ∧ value = b.toNat - 0xE0 ∧
        low = (if b.toNat = 0xE0 then 0xA0 else 0x80) ∧ high = (if b.toNat = 0xED then 0x9F else 0xBF)) ∨
      (owed = 3 ∧ 0xF0 ≤ b.toNat ∧ b.toNat ≤ 0xF4 ∧ value = b.toNat - 0xF0 ∧
        low = (if b.toNat = 0xF0 then 0x90 else 0x80) ∧ high = (if b.toNat = 0xF4 then 0x8F else 0xBF)) := by
  generalize hs : State.owing value owed low high = s at h
  cases h with
  | two h h' =>
    injection hs
    omega
  | three h h' =>
    injection hs
    subst_vars
    simp [h, h']
  | four h h' =>
    injection hs
    subst_vars
    simp [h, h']

theorem Unfinished.owing (h : Unfinished cut (.owing value owed low high)) :
    (∃ b, cut = [b] ∧ Leads b (.owing value owed low high)) ∨
      ∃ front b v l u, cut = front ++ [b] ∧ Unfinished front (.owing v (owed + 1) l u) ∧ 1 ≤ owed ∧
        (l ≤ b.toNat ∧ b.toNat ≤ u) ∧ value = v * 0x40 + (b.toNat - 0x80) := by
  generalize hs : State.owing value owed low high = s at h
  cases h with
  | lead h =>
    subst hs
    exact .inl ⟨_, rfl, h⟩
  | more h howed hb =>
    injection hs with hvalue howed'
    refine .inr ⟨_, _, _, _, _, rfl, ?_, by omega, hb, hvalue⟩
    rwa [howed', Nat.sub_add_cancel (by omega)]

theorem Unfinished.completes (h : Unfinished cut (.owing value owed low high)) (howed : owed ≤ 1)
    (hb : low ≤ b.toNat ∧ b.toNat ≤ high) : cut ++ [b] = encodeChar (Char.ofNat (value * 0x40 + (b.toNat - 0x80))) := by
  obtain ⟨_, _, _, _, heq, hpos, -, -, hlow, hhigh⟩ := h.owes
  cases heq
  generalize hn : value * 0x40 + (b.toNat - 0x80) = n
  rcases h.owing with ⟨b₀, rfl, hlead⟩ | ⟨_, b₁, v₁, l₁, u₁, rfl, h₁, -, hb₁, hv₁⟩
  · have hvalue : 0xC2 ≤ b₀.toNat ∧ b₀.toNat < 0xE0 ∧ value = b₀.toNat - 0xC0 := by
      rcases hlead.owing with h | h | h <;> omega
    have hchar : (Char.ofNat n).toNat = n := toNat_char (by omega)
    rw [encodeChar_two (by omega) (by omega), hchar, ofNat_eq (b := b₀) (by omega), ofNat_eq (b := b) (by omega)]
    rfl
  obtain ⟨_, _, _, _, heq₁, -, -, -, hlow₁, hhigh₁⟩ := h₁.owes
  cases heq₁
  rcases h₁.owing with ⟨b₀, rfl, hlead⟩ | ⟨_, b₂, v₂, l₂, u₂, rfl, h₂, -, hb₂, hv₂⟩
  · rcases hlead.owing with h | ⟨-, hmin, hmax, hvalue, hl, hu⟩ | h
    · omega
    · have hchar : (Char.ofNat n).toNat = n := by
        refine toNat_char ?_
        split at hu <;> omega
      have hthree : 0x800 ≤ n := by split at hl <;> omega
      rw [encodeChar_three (by omega) (by omega), hchar, ofNat_eq (b := b₀) (by omega), ofNat_eq (b := b₁) (by omega),
        ofNat_eq (b := b) (by omega)]
      rfl
    · omega
  obtain ⟨_, _, _, _, heq₂, -, -, -, hlow₂, hhigh₂⟩ := h₂.owes
  cases heq₂
  rcases h₂.owing with ⟨b₀, rfl, hlead⟩ | ⟨_, b₃, v₃, l₃, u₃, rfl, h₃, -, -, -⟩
  · rcases hlead.owing with h | h | ⟨-, hmin, hmax, hvalue, hl, hu⟩
    · omega
    · omega
    · have hfour : 0x10000 ≤ n := by split at hl <;> omega
      have hchar : (Char.ofNat n).toNat = n := by
        refine toNat_char ?_
        split at hu <;> omega
      rw [encodeChar_four (by omega), hchar, ofNat_eq (b := b₀) (by omega), ofNat_eq (b := b₂) (by omega),
        ofNat_eq (b := b₁) (by omega), ofNat_eq (b := b) (by omega)]
      rfl
  · obtain ⟨_, _, _, _, heq₃, -, hlength, hle, -⟩ := h₃.owes
    cases heq₃
    omega

theorem exists_cut (hc : 0x80 ≤ c.toNat) : ∃ cut b value low high, encodeChar c = cut ++ [b] ∧
    Unfinished cut (.owing value 1 low high) ∧ (low ≤ b.toNat ∧ b.toNat ≤ high) ∧
    value * 0x40 + (b.toNat - 0x80) = c.toNat := by
  have hvalid := toNat_valid c
  obtain ⟨b, hb⟩ := exists_byte (by omega : 0x80 + c.toNat % 0x40 < 0x100)
  by_cases htwo : c.toNat < 0x800
  · obtain ⟨b₀, hb₀⟩ := exists_byte (by omega : 0xC0 + c.toNat / 0x40 < 0x100)
    refine ⟨[b₀], b, _, _, _, ?_, .lead (.two (by omega) (by omega)), by omega, by omega⟩
    rw [encodeChar_two hc htwo, ofNat_eq hb₀.symm, ofNat_eq hb.symm]
    rfl
  obtain ⟨b₁, hb₁⟩ := exists_byte (by omega : 0x80 + c.toNat / 0x40 % 0x40 < 0x100)
  by_cases hthree : c.toNat < 0x10000
  · obtain ⟨b₀, hb₀⟩ := exists_byte (by omega : 0xE0 + c.toNat / 0x1000 < 0x100)
    have hsecond : (if b₀.toNat = 0xE0 then 0xA0 else 0x80) ≤ b₁.toNat ∧
        b₁.toNat ≤ (if b₀.toNat = 0xED then 0x9F else 0xBF) := by
      constructor <;> split <;> omega
    refine ⟨[b₀] ++ [b₁], b, _, _, _, ?_, .more (.lead (.three (by omega) (by omega))) (by decide) hsecond, by omega,
      by omega⟩
    rw [encodeChar_three (by omega) hthree, ofNat_eq hb₀.symm, ofNat_eq hb₁.symm, ofNat_eq hb.symm]
    rfl
  · obtain ⟨b₀, hb₀⟩ := exists_byte (by omega : 0xF0 + c.toNat / 0x40000 < 0x100)
    obtain ⟨b₂, hb₂⟩ := exists_byte (by omega : 0x80 + c.toNat / 0x1000 % 0x40 < 0x100)
    have hsecond : (if b₀.toNat = 0xF0 then 0x90 else 0x80) ≤ b₂.toNat ∧
        b₂.toNat ≤ (if b₀.toNat = 0xF4 then 0x8F else 0xBF) := by
      constructor <;> split <;> omega
    have hlead := (Unfinished.lead (.four (b := b₀) (by omega) (by omega))).more (by decide) hsecond
    refine ⟨[b₀] ++ [b₂] ++ [b₁], b, _, _, _, ?_, hlead.more (by decide) (by omega), by omega, by omega⟩
    rw [encodeChar_four (by omega), ofNat_eq hb₀.symm, ofNat_eq hb₂.symm, ofNat_eq hb₁.symm, ofNat_eq hb.symm]
    rfl

theorem Unfinished.head (h : Unfinished cut s) : ∃ b bs, cut = b :: bs ∧ 0xC0 ≤ b.toNat := by
  induction h with
  | lead h => cases h <;> exact ⟨_, [], rfl, by omega⟩
  | more h howed hb ih =>
    obtain ⟨b, bs, rfl, hlead⟩ := ih
    exact ⟨b, _, rfl, hlead⟩

theorem encodeChar_head (c : Char) : ∃ b bs, encodeChar c = b :: bs ∧ (b.toNat < 0x80 ∨ 0xC0 ≤ b.toNat) := by
  by_cases hc : c.toNat < 0x80
  · obtain ⟨b, hb⟩ := exists_byte (by omega : c.toNat < 0x100)
    exact ⟨b, [], by rw [encodeChar_ascii hc, ofNat_eq hb.symm], by omega⟩
  · obtain ⟨cut, b, _, _, _, hbytes, hcut, -⟩ := exists_cut (Nat.not_lt.1 hc)
    obtain ⟨b₀, bs, rfl, hlead⟩ := hcut.head
    exact ⟨b₀, _, hbytes, .inr hlead⟩

theorem settled_encodeChar (c : Char) :
    settled .between (encodeChar c) = [c] ∧ after .between (encodeChar c) = .between := by
  by_cases hc : c.toNat < 0x80
  · obtain ⟨b, hb⟩ := exists_byte (by omega : c.toNat < 0x100)
    have hstep : step .between b = ([c], .between) := by
      rw [step, start_ascii (by omega), hb, Char.ofNat_toNat]
    rw [encodeChar_ascii hc, ofNat_eq hb.symm]
    simp [settled, after, hstep]
  · obtain ⟨cut, b, value, low, high, hbytes, hcut, hb, hvalue⟩ := exists_cut (Nat.not_lt.1 hc)
    obtain ⟨hsettled, hafter⟩ := hcut.settled_eq
    rw [hbytes, settled_concat, after_concat, hsettled, hafter, step_last hb (Nat.le_refl 1), hvalue, Char.ofNat_toNat]
    exact ⟨rfl, rfl⟩

theorem encode_cons (c : Char) (cs : List Char) : encode (c :: cs) = encodeChar c ++ encode cs := rfl

theorem decode_encodeChar_append (c : Char) (rest : List UInt8) : decode (encodeChar c ++ rest) = c :: decode rest := by
  rw [decode, decodeFrom_append, (settled_encodeChar c).1, (settled_encodeChar c).2]
  rfl

theorem decode_encode_append (cs : List Char) (rest : List UInt8) : decode (encode cs ++ rest) = cs ++ decode rest := by
  induction cs with
  | nil => rfl
  | cons c cs ih => rw [encode_cons, List.append_assoc, decode_encodeChar_append, ih, List.cons_append]

/-- Text comes back from its bytes. -/
theorem decode_encode (cs : List Char) : decode (encode cs) = cs := by
  have h := decode_encode_append cs []
  rwa [List.append_nil, decode_nil, List.append_nil] at h

theorem decode_append_encodeChar (front : List UInt8) (c : Char) (rest : List UInt8) :
    decode (front ++ (encodeChar c ++ rest)) = decode front ++ c :: decode rest := by
  rw [← decode_encodeChar_append]
  obtain ⟨b, bs, hbytes, hlead⟩ := encodeChar_head c
  rw [hbytes]
  exact decode_append_lead front hlead (bs ++ rest)

/-- The bytes are those of core. -/
theorem encodeChar_eq (c : Char) : encodeChar c = String.utf8EncodeChar c := by
  have hvalid := toNat_valid c
  have hval : c.val.toNat = c.toNat := rfl
  have hbyte {m n : Nat} (h : m = n) : UInt8.ofNat m = UInt8.ofNat n := congrArg _ h
  rw [String.utf8EncodeChar, hval]
  by_cases hone : c.toNat < 0x80
  · rw [encodeChar_ascii hone, if_pos (by omega)]
  by_cases htwo : c.toNat < 0x800
  · rw [encodeChar_two (by omega) htwo, if_neg (by omega), if_pos (by omega)]
    simp only [List.cons.injEq, and_true]
    exact ⟨hbyte (by omega), hbyte (by omega)⟩
  by_cases hthree : c.toNat < 0x10000
  · rw [encodeChar_three (by omega) hthree, if_neg (by omega), if_neg (by omega), if_pos (by omega)]
    simp only [List.cons.injEq, and_true]
    exact ⟨hbyte (by omega), hbyte (by omega), hbyte (by omega)⟩
  · rw [encodeChar_four (by omega), if_neg (by omega), if_neg (by omega), if_neg (by omega)]
    simp only [List.cons.injEq, and_true]
    exact ⟨hbyte (by omega), hbyte (by omega), hbyte (by omega), hbyte (by omega)⟩

theorem encode_eq (s : String) : encode s.toList = s.toUTF8.data.toList := by
  have hencode : encode s.toList = s.toList.flatMap String.utf8EncodeChar :=
    List.flatMap_congr fun c _ ↦ encodeChar_eq c
  rw [hencode, String.toUTF8, ← String.utf8Encode_toList, List.utf8Encode, List.toList_data_toByteArray]

end Characters

section Cutting

theorem Unfinished.of_encodeChar (hxs : xs <+: encodeChar c) (hne : xs ≠ []) (hlt : xs.length < (encodeChar c).length) :
    ∃ s, Unfinished xs s := by
  by_cases hc : c.toNat < 0x80
  · rw [encodeChar_ascii hc, List.length_singleton] at hlt
    exact absurd (List.length_eq_zero_iff.1 (Nat.lt_one_iff.1 hlt)) hne
  · obtain ⟨cut, b, value, low, high, hbytes, hcut, -⟩ := exists_cut (Nat.not_lt.1 hc)
    rw [hbytes] at hxs hlt
    rcases List.prefix_concat_iff.1 hxs with rfl | hbegins
    · exact absurd hlt (Nat.lt_irrefl _)
    · exact hcut.of_prefix hbegins hne

/-- The beginning of a text is whole characters and at most one unfinished one. -/
theorem prefix_encode (h : xs <+: encode cs) :
    ∃ cs' cut, cs' <+: cs ∧ xs = encode cs' ++ cut ∧ (cut = [] ∨ ∃ s, Unfinished cut s) := by
  induction cs generalizing xs with
  | nil => exact ⟨[], [], List.nil_prefix, List.prefix_nil.1 h, .inl rfl⟩
  | cons c cs ih =>
    rw [encode_cons] at h
    by_cases hlt : xs.length < (encodeChar c).length
    · have hxs : xs <+: encodeChar c := List.prefix_of_prefix_length_le h (List.prefix_append _ _) (Nat.le_of_lt hlt)
      by_cases hne : xs = []
      · exact ⟨[], [], List.nil_prefix, hne, .inl rfl⟩
      · exact ⟨[], xs, List.nil_prefix, rfl, .inr (Unfinished.of_encodeChar hxs hne hlt)⟩
    · obtain ⟨more, rfl⟩ := List.prefix_of_prefix_length_le (List.prefix_append _ _) h (Nat.not_lt.1 hlt)
      obtain ⟨cs', cut, hcs, rfl, hcut⟩ := ih ((List.prefix_append_right_inj _).1 h)
      exact ⟨c :: cs', cut, (List.prefix_cons_inj c).2 hcs, (List.append_assoc _ _ _).symm, hcut⟩

theorem Unfinished.followed (h : Unfinished cut s) (rest : List UInt8) :
    (∃ shown, decodeFrom s rest = replacement :: shown) ∨ ∃ c more left, rest = more ++ left ∧ more ≠ [] ∧
      cut ++ more = encodeChar c ∧ decodeFrom s rest = c :: decode left := by
  induction rest generalizing cut s with
  | nil => exact .inl ⟨[], h.flush_eq⟩
  | cons b rest ih =>
    obtain ⟨value, owed, low, high, rfl, -⟩ := h.owes
    by_cases hb : low ≤ b.toNat ∧ b.toNat ≤ high
    · by_cases howed : 1 < owed
      · rw [decodeFrom_cons, step_fits hb howed]
        rcases ih (h.more howed hb) with hshown | ⟨c, more, left, rfl, -, hbytes, hread⟩
        · exact .inl hshown
        · exact .inr ⟨c, b :: more, left, rfl, List.cons_ne_nil _ _, (List.append_assoc _ _ _).symm.trans hbytes, hread⟩
      · rw [decodeFrom_cons, step_last hb (by omega)]
        exact .inr ⟨_, [b], rest, rfl, List.cons_ne_nil _ _, h.completes (by omega) hb, rfl⟩
    · rw [decodeFrom_cons, step_unfit hb]
      exact .inl ⟨_, rfl⟩

end Cutting

end CodeRepair.Text.Utf8

import CodeRepair.Number.Binary
import Mathlib.Algebra.Group.Nat.Defs

/-!
Whole numbers and their digits: what is written of a number spells that number. A decimal number has few other
characters than digits.
-/
namespace CodeRepair.Number

section Digits

theorem digitsFrom_lt (base n : Nat) : ∀ d ∈ digitsFrom base n, d < base + 2 := by
  induction n using digitsFrom.induct base with
  | case1 => simp [digitsFrom]
  | case2 n hn ih =>
    intro d hd
    rw [digitsFrom, dif_neg hn, List.mem_cons] at hd
    rcases hd with rfl | hd
    · exact Nat.mod_lt _ (by omega)
    · exact ih d hd

theorem length_digitsFrom_le (base k n : Nat) (h : n < (base + 2) ^ k) : (digitsFrom base n).length ≤ k := by
  induction k generalizing n with
  | zero =>
    have hn : n = 0 := by simpa using h
    simp [digitsFrom, hn]
  | succ k ih =>
    rw [digitsFrom]
    split
    · simp
    · have hdiv : n / (base + 2) < (base + 2) ^ k := by
        apply Nat.div_lt_of_lt_mul
        rw [Nat.pow_succ] at h
        rw [Nat.mul_comm]
        exact h
      have hrest := ih _ hdiv
      rw [List.length_cons]
      omega

theorem length_hexDigits_le (k n : Nat) (hk : 1 ≤ k) (h : n < 16 ^ k) : (hexDigits n).length ≤ k := by
  unfold hexDigits
  split
  · exact hk
  · rw [List.length_reverse, List.length_map]
    exact length_digitsFrom_le 14 k n h

theorem length_paddedHex (width n : Nat) (hw : 1 ≤ width) : (paddedHex width n).length = width := by
  have hlt : n % Nat.pow 16 width < 16 ^ width := Nat.mod_lt _ (Nat.pow_pos (by omega))
  have hle := length_hexDigits_le width _ hw hlt
  rw [paddedHex, List.length_append, List.length_replicate]
  omega

theorem ofDigits_append (base : Nat) (ds ds' : List Nat) :
    ofDigits base (ds ++ ds') = ds'.foldl (fun n d ↦ n * base + d) (ofDigits base ds) := List.foldl_append

theorem ofDigits_digitsFrom (base n : Nat) : ofDigits (base + 2) (digitsFrom base n).reverse = n := by
  induction n using digitsFrom.induct base with
  | case1 => simp [digitsFrom, ofDigits]
  | case2 n hn ih =>
    rw [digitsFrom, dif_neg hn, List.reverse_cons, ofDigits_append, ih]
    simp only [List.foldl_cons, List.foldl_nil]
    rw [Nat.mul_comm]
    exact Nat.div_add_mod n (base + 2)

theorem ofDigits_zeros (base k : Nat) (ds : List Nat) :
    ofDigits base (List.replicate k 0 ++ ds) = ofDigits base ds := by
  induction k with
  | zero => rfl
  | succ k ih =>
    rw [List.replicate_succ]
    simpa [ofDigits] using ih

end Digits

section Characters

variable {d : Nat}

theorem digitValue?_digitChar : ∀ d < 10, digitValue? (digitChar d) = some d := by decide

theorem isDigit_digitChar : ∀ d < 10, (digitChar d).isDigit = true := by decide

theorem hexValue?_digitChar : ∀ d < 16, hexValue? (digitChar d) = some d := by decide

end Characters

section Runs

variable {p : Char → Bool}

theorem ne_of_class {x y : Char} (hx : p x = true) (hy : p y = false) : x ≠ y := by
  rintro rfl
  rw [hx] at hy
  cases hy

theorem takeWhile_run {run rest : List Char} (hrun : ∀ x ∈ run, p x = true) (hrest : ∀ y ∈ rest.head?, p y = false) :
    (run ++ rest).takeWhile p = run := by
  rw [List.takeWhile_append_of_pos hrun]
  cases rest with
  | nil => simp
  | cons y ys => simp [hrest y rfl]

end Runs

/-- A run of decimal digits that spells a number. -/
structure Spells (cs : List Char) (n : Nat) : Prop where
  isDigit : ∀ c ∈ cs, c.isDigit = true
  nonempty : cs ≠ []
  value : ofDigits 10 (cs.filterMap digitValue?) = n

theorem filterMap_digitChar {ds : List Nat} (hds : ∀ d ∈ ds, d < 10) :
    (ds.map digitChar).filterMap digitValue? = ds := by
  induction ds with
  | nil => rfl
  | cons d ds ih =>
    rw [List.map_cons, List.filterMap_cons, digitValue?_digitChar d (hds d (by simp))]
    exact congrArg (d :: ·) (ih fun d' hd' ↦ hds d' (by simp [hd']))

theorem spells_map_digitChar {ds : List Nat} (hds : ∀ d ∈ ds, d < 10) (hne : ds ≠ []) :
    Spells (ds.map digitChar) (ofDigits 10 ds) where
  isDigit c hc := by
    obtain ⟨d, hd, rfl⟩ := List.mem_map.1 hc
    exact isDigit_digitChar d (hds d hd)
  nonempty hnil := hne (List.map_eq_nil_iff.1 hnil)
  value := by rw [filterMap_digitChar hds]

theorem digitsFrom_ne_nil (base : Nat) {n : Nat} (hn : n ≠ 0) : digitsFrom base n ≠ [] := by
  rw [digitsFrom, dif_neg hn]
  simp

theorem spells_decimalDigits (n : Nat) : Spells (decimalDigits n) n := by
  unfold decimalDigits
  split
  next hn =>
    subst hn
    exact ⟨by simp, by simp, rfl⟩
  next hn =>
    have hdigits : ∀ d ∈ (digitsFrom 8 n).reverse, d < 10 := fun d hd ↦ digitsFrom_lt 8 n d (List.mem_reverse.1 hd)
    have hspells := spells_map_digitChar hdigits (by simpa using digitsFrom_ne_nil 8 hn)
    rw [ofDigits_digitsFrom 8 n] at hspells
    rwa [← List.map_reverse]

theorem length_decimalDigits_le (k n : Nat) (hk : 1 ≤ k) (h : n < 10 ^ k) : (decimalDigits n).length ≤ k := by
  unfold decimalDigits
  split
  · exact hk
  · rw [List.length_reverse, List.length_map]
    exact length_digitsFrom_le 8 k n h

theorem Spells.zeros {cs : List Char} {n : Nat} (h : Spells cs n) (k : Nat) :
    Spells (List.replicate k '0' ++ cs) n where
  isDigit c hc := by
    rcases List.mem_append.1 hc with hc | hc
    · rw [(List.mem_replicate.1 hc).2]
      rfl
    · exact h.isDigit c hc
  nonempty hnil := h.nonempty (List.append_eq_nil_iff.1 hnil).2
  value := by
    have hzeros : (List.replicate k '0').filterMap digitValue? = List.replicate k 0 := by
      rw [List.filterMap_replicate]
      rfl
    rw [List.filterMap_append, hzeros, ofDigits_zeros, h.value]

theorem digitsFrom_eq_concat (base : Nat) {n : Nat} (hn : n ≠ 0) :
    ∃ ds d, digitsFrom base n = ds ++ [d] ∧ d ≠ 0 := by
  induction n using digitsFrom.induct base with
  | case1 => exact absurd rfl hn
  | case2 n _ ih =>
    rw [digitsFrom, dif_neg hn]
    by_cases hdiv : n / (base + 2) = 0
    · refine ⟨[], n % (base + 2), ?_, ?_⟩
      · rw [hdiv, digitsFrom]
        rfl
      · rw [Nat.mod_eq_of_lt ((Nat.div_eq_zero_iff_lt (by omega)).1 hdiv)]
        exact hn
    · obtain ⟨ds, d, hds, hd⟩ := ih hdiv
      exact ⟨n % (base + 2) :: ds, d, by rw [hds]; rfl, hd⟩

theorem decimalDigits_head (n : Nat) :
    ∃ d ds, (decimalDigits n).filterMap digitValue? = d :: ds ∧ (d = 0 → ds = []) := by
  by_cases hn : n = 0
  · subst hn
    exact ⟨0, [], rfl, fun _ ↦ rfl⟩
  · obtain ⟨ds, d, hds, hd⟩ := digitsFrom_eq_concat 8 hn
    have hdigits : ∀ d ∈ (digitsFrom 8 n).reverse, d < 10 := fun d hd ↦ digitsFrom_lt 8 n d (List.mem_reverse.1 hd)
    refine ⟨d, ds.reverse, ?_, fun h ↦ absurd h hd⟩
    rw [decimalDigits, if_neg hn, ← List.map_reverse, filterMap_digitChar hdigits, hds]
    simp

theorem decimalDigits_zero {n : Nat} (h : (decimalDigits n).head? = some '0') : (decimalDigits n).length = 1 := by
  obtain ⟨d, ds, hvalues, hzero⟩ := decimalDigits_head n
  have hspells := spells_decimalDigits n
  cases hdigits : decimalDigits n with
  | nil => exact absurd hdigits hspells.nonempty
  | cons x xs =>
    rw [hdigits] at h hvalues
    cases h
    cases xs with
    | nil => rfl
    | cons y ys =>
      obtain ⟨rfl, hmore⟩ := List.cons.inj hvalues
      rw [hzero rfl] at hmore
      have hy : ('0' ≤ y ∧ y ≤ '9') := by
        have hdigit := hspells.isDigit y (by simp [hdigits])
        simpa [Char.isDigit, Char.le_def] using hdigit
      rw [List.filterMap_cons, digitValue?, if_pos hy] at hmore
      cases hmore

section Reading

variable {cs : List Char} {n : Nat}

theorem isDigit_iff {c : Char} : c.isDigit = true ↔ '0' ≤ c ∧ c ≤ '9' := by
  simp [Char.isDigit, Char.le_def]

theorem digitValue?_none {c : Char} (hc : c.isDigit = false) : digitValue? c = none := by
  refine if_neg fun h ↦ ?_
  rw [isDigit_iff.2 h] at hc
  cases hc

theorem mapM_digits_inv {cs : List Char} {values : List Nat} (h : cs.mapM digitValue? = some values) :
    values.length = cs.length ∧ ∀ c ∈ cs, c.isDigit = true := by
  induction cs generalizing values with
  | nil =>
    cases h
    exact ⟨rfl, nofun⟩
  | cons c cs ih =>
    have hc : c.isDigit = true := by
      cases hc : c.isDigit with
      | true => rfl
      | false =>
        rw [List.mapM_cons, digitValue?_none hc] at h
        cases h
    cases hvalues : cs.mapM digitValue? with
    | none =>
      rw [List.mapM_cons, hvalues] at h
      cases hd : digitValue? c <;> rw [hd] at h <;> cases h
    | some more =>
      obtain ⟨hlength, hcs⟩ := ih hvalues
      rw [List.mapM_cons, hvalues] at h
      cases hd : digitValue? c with
      | none => rw [hd] at h; cases h
      | some d =>
        rw [hd] at h
        cases h
        exact ⟨by simp [hlength], List.forall_mem_cons.2 ⟨hc, hcs⟩⟩

theorem mapM_digits (h : ∀ c ∈ cs, c.isDigit = true) : cs.mapM digitValue? = some (cs.filterMap digitValue?) := by
  induction cs with
  | nil => rfl
  | cons c cs ih =>
    obtain ⟨hc, hcs⟩ := List.forall_mem_cons.1 h
    have hvalue : digitValue? c = some (c.toNat - 0x30) := if_pos (isDigit_iff.1 hc)
    rw [List.mapM_cons, hvalue, ih hcs, List.filterMap_cons, hvalue]
    rfl

theorem decimal?_eq_some : decimal? cs = some n ↔ Spells cs n := by
  rw [decimal?]
  constructor
  · intro h
    split at h
    · cases h
    next hne =>
      obtain ⟨values, hvalues, hn⟩ := Option.map_eq_some_iff.1 h
      obtain ⟨-, hall⟩ := mapM_digits_inv hvalues
      rw [mapM_digits hall] at hvalues
      cases hvalues
      exact ⟨hall, by simpa using hne, hn⟩
  · intro h
    rw [if_neg (by simpa using h.nonempty), mapM_digits h.isDigit, Option.map_some, h.value]

end Reading

section Decimals

def InDecimal (x : Char) : Prop := x.isDigit = true ∨ x = '-' ∨ x = '+' ∨ x = '.' ∨ x = 'e'

theorem format_inDecimal (layout : Layout) (d : Decimal) : ∀ x ∈ d.format layout, InDecimal x := by
  have hdigits (n : Nat) : ∀ x ∈ decimalDigits n, InDecimal x :=
    fun x hx ↦ .inl ((spells_decimalDigits n).isDigit x hx)
  have htake (n k : Nat) : ∀ x ∈ (decimalDigits n).take k, InDecimal x :=
    fun x hx ↦ hdigits n x (List.mem_of_mem_take hx)
  have hdrop (n k : Nat) : ∀ x ∈ (decimalDigits n).drop k, InDecimal x :=
    fun x hx ↦ hdigits n x (List.mem_of_mem_drop hx)
  have hzeros (k : Nat) : ∀ x ∈ List.replicate k '0', InDecimal x := by
    intro x hx
    rw [(List.mem_replicate.1 hx).2]
    exact .inl rfl
  have hsign : ∀ x ∈ (if d.negative then ['-'] else [] : List Char), InDecimal x := by
    split <;> simp [InDecimal]
  have hpoint : ∀ x ∈ (if layout.pointZero then ['.', '0'] else [] : List Char), InDecimal x := by
    split <;> simp [InDecimal]
  have hzero : InDecimal '0' := .inl rfl
  have hdot : InDecimal '.' := .inr (.inr (.inr (.inl rfl)))
  have he : InDecimal 'e' := .inr (.inr (.inr (.inr rfl)))
  have hplus (p : Int) : InDecimal (if p < 0 then '-' else '+') := by split <;> simp [InDecimal]
  have hrest : ∀ x ∈ (if ((decimalDigits d.digits).drop 1).isEmpty then []
      else '.' :: (decimalDigits d.digits).drop 1), InDecimal x := by
    split
    · simp
    · exact List.forall_mem_cons.2 ⟨hdot, hdrop _ _⟩
  unfold Decimal.format
  dsimp only
  split
  · simp only [List.forall_mem_append, List.forall_mem_cons]
    exact ⟨hsign, hzero, hpoint⟩
  split
  · split
    · simp only [List.forall_mem_append]
      exact ⟨⟨⟨hsign, hdigits _⟩, hzeros _⟩, hpoint⟩
    split
    · simp only [List.forall_mem_append, List.forall_mem_cons]
      exact ⟨⟨hsign, htake _ _⟩, hdot, hdrop _ _⟩
    · simp only [List.forall_mem_append, List.forall_mem_cons]
      exact ⟨⟨hsign, hzero, hdot, hzeros _⟩, hdigits _⟩
  · simp only [List.forall_mem_append, List.forall_mem_cons]
    exact ⟨⟨⟨hsign, htake _ _⟩, hrest⟩, he, hplus _, hdigits _⟩

theorem format_ne_nil (layout : Layout) (d : Decimal) : d.format layout ≠ [] := by
  unfold Decimal.format
  dsimp only
  have hne := (spells_decimalDigits d.digits).nonempty
  split
  · simp
  split
  · split
    · simp [hne]
    split
    · simp
    · simp
  · simp

end Decimals

end CodeRepair.Number

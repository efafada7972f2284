import CodeRepair.Proofs.Number.Digits
import CodeRepair.Proofs.Time.Calendar
import CodeRepair.Time.Stamp

/-!
The text of an instant is read as that instant.
-/
namespace CodeRepair.Time.Stamp

open Number (Spells)

variable {cs ds rest : List Char} {n width low high : Nat} {mark : Char}

section Parts

theorem isBlank_of_isDigit {c : Char} (hc : c.isDigit = true) : Text.isBlank c = false := by
  have hrange : 48 ≤ c.toNat ∧ c.toNat ≤ 57 := by
    simp only [Char.isDigit, Bool.and_eq_true, decide_eq_true_eq, ge_iff_le, UInt32.le_iff_toNat_le] at hc
    exact hc
  simp only [Text.isBlank, if_pos (by omega : c.toNat < 0x80)]
  simp only [Bool.or_eq_false_iff, Bool.and_eq_false_iff, decide_eq_false_iff_not]
  omega

theorem Spells.trimStart (hs : Spells ds n) (rest : List Char) : Text.trimStart (ds ++ rest) = ds ++ rest := by
  cases ds with
  | nil => exact absurd rfl hs.nonempty
  | cons d ds => simp [Text.trimStart, isBlank_of_isDigit (hs.isDigit d (by simp))]

theorem spells_padded (width n : Nat) : Spells (padded width n) n := (Number.spells_decimalDigits n).zeros _

theorem length_padded (hw : 1 ≤ width) (hn : n < 10 ^ width) : (padded width n).length = width := by
  have hle := Number.length_decimalDigits_le width n hw hn
  rw [padded, List.length_append, List.length_replicate]
  omega

theorem readDigits_eq (hs : Spells ds n) (hlength : ds.length ≤ width) (hrest : ∀ y ∈ rest.head?, y.isDigit = false)
    (hn : n < Nat.pow 2 63) : readDigits width (ds ++ rest) = .ok (n, rest) := by
  have htake : (ds ++ rest).take width = ds ++ rest.take (width - ds.length) := by
    rw [List.take_append, List.take_of_length_le hlength]
  have hhead : ∀ y ∈ (rest.take (width - ds.length)).head?, y.isDigit = false := by
    intro y hy
    refine hrest y ?_
    cases rest with
    | nil => simp at hy
    | cons z zs =>
      cases hk : width - ds.length with
      | zero => rw [hk] at hy; cases hy
      | succ k => rw [hk] at hy; exact hy
  have hrun : ((ds ++ rest).take width).takeWhile Char.isDigit = ds := by
    rw [htake, Number.takeWhile_run hs.isDigit hhead]
  have hne : ds.isEmpty = false := by simpa using hs.nonempty
  have hne' : (ds ++ rest).isEmpty = false := by simp [hs.nonempty]
  simp only [readDigits, hrun, hne, hne', hs.value, List.drop_left]
  rw [if_neg (by simp), if_neg (by simp), if_neg (by omega)]

theorem readPart_eq (hs : Spells ds n) (hlength : ds.length ≤ 2) (hrest : ∀ y ∈ rest.head?, y.isDigit = false)
    (hn : n < Nat.pow 2 63) (hrange : low ≤ n ∧ n ≤ high) : readPart low high (ds ++ rest) = .ok (n, rest) := by
  rw [readPart, Spells.trimStart hs, readDigits_eq hs hlength hrest hn]
  simp only [bind, Except.bind, if_pos hrange]
  rfl

theorem readMark_eq (hm : Text.isBlank mark = false) (rest : List Char) : readMark mark (mark :: rest) = .ok rest := by
  have htrim : Text.trimStart (mark :: rest) = mark :: rest := by simp [Text.trimStart, hm]
  rw [readMark, htrim]
  simp

theorem not_isDigit_head {y : Char} (hy : y.isDigit = false) (rest : List Char) :
    ∀ z ∈ (y :: rest).head?, z.isDigit = false := by
  rintro z hz
  cases hz
  exact hy

theorem readPart_padded (hn : n < 100) (hrange : low ≤ n ∧ n ≤ high) {y : Char} (hy : y.isDigit = false)
    (rest : List Char) : readPart low high (padded 2 n ++ y :: rest) = .ok (n, y :: rest) :=
  readPart_eq (spells_padded 2 n) (Nat.le_of_eq (length_padded (by omega) hn)) (not_isDigit_head hy rest)
    (Nat.lt_trans hn (by decide)) hrange

-- the range is a variable here, as the kernel would count up to its bounds
theorem year_in_range {P : Int → Prop} [DecidablePred P] (hrange : P n) :
    (do
      let (n, rest) ← (Except.ok (n, rest) : Except StampError (Nat × List Char))
      let (year, rest) ← pure ((n : Int), rest)
      if P year then return (year, rest) else throw .outOfRange) = Except.ok ((n : Int), rest) :=
  if_pos hrange

theorem readYear_digits {text : List Char} (htext : ∀ y ∈ text.head?, y.isDigit = true)
    (htrim : Text.trimStart cs = text) (hdigits : readDigits 4 text = .ok (n, rest)) (hn : n < 10 ^ 4) :
    readYear cs = .ok ((n : Int), rest) := by
  have hrange : -(Nat.pow 2 31) ≤ (n : Int) ∧ (n : Int) < Nat.pow 2 31 := by
    have hlimit : Nat.pow 2 31 = 2147483648 := rfl
    rw [hlimit]
    omega
  rw [readYear, htrim]
  split
  next => cases htext '-' rfl
  next => cases htext '+' rfl
  next =>
    rw [hdigits]
    exact year_in_range (P := fun year ↦ -(Nat.pow 2 31) ≤ year ∧ year < Nat.pow 2 31) hrange

theorem readYear_eq {year : Int} (h0 : 0 ≤ year) (h1 : year ≤ 9999) {y : Char} (hy : y.isDigit = false)
    (rest : List Char) : readYear (yearText year ++ y :: rest) = .ok (year, y :: rest) := by
  obtain ⟨n, rfl⟩ := Int.eq_ofNat_of_zero_le h0
  have hn : n < 10 ^ 4 := by omega
  have hspells := spells_padded 4 n
  have hdigits := readDigits_eq hspells (Nat.le_of_eq (length_padded (by omega) hn)) (not_isDigit_head hy rest)
    (Nat.lt_trans hn (by decide))
  rw [yearText, if_pos ⟨h0, h1⟩, Int.toNat_natCast]
  refine readYear_digits ?_ (Spells.trimStart hspells _) hdigits hn
  intro d hd
  cases htext : padded 4 n with
  | nil => exact absurd htext hspells.nonempty
  | cons first more =>
    rw [htext] at hd
    cases hd
    exact hspells.isDigit d (by rw [htext]; simp)

theorem readFraction_eq {nanos : Nat} (hn : nanos < 1000000000) :
    readFraction (fractionText nanos ++ ['Z']) = .ok (nanos, ['Z']) := by
  have fraction {width n : Nat} (hw : 1 ≤ width) (hw' : width ≤ 9) (hlt : n < 10 ^ width) :
      readFraction ('.' :: padded width n ++ ['Z']) = .ok (n * Nat.pow 10 (9 - width), ['Z']) := by
    have hlength := length_padded hw hlt
    have hsmall : n < Nat.pow 2 63 := by
      have hpow : 10 ^ width ≤ 10 ^ 9 := Nat.pow_le_pow_right (by omega) hw'
      exact Nat.lt_trans (Nat.lt_of_lt_of_le hlt hpow) (by decide)
    have hdigits := readDigits_eq (spells_padded width n) (by omega : _ ≤ 9)
      (not_isDigit_head (by decide : 'Z'.isDigit = false) []) hsmall
    have hcount : (padded width n ++ ['Z']).length - ['Z'].length = width := by simp [hlength]
    rw [List.cons_append, readFraction, hdigits]
    simp only [bind, Except.bind, hcount]
    rfl
  unfold fractionText
  split
  next hzero => rw [hzero]; rfl
  split
  next hmilli =>
    rw [fraction (by omega) (by omega) (by omega)]
    have hvalue : nanos / 1000000 * Nat.pow 10 (9 - 3) = nanos := by
      rw [(by decide : Nat.pow 10 (9 - 3) = 1000000)]
      omega
    rw [hvalue]
  split
  next hmicro =>
    rw [fraction (by omega) (by omega) (by omega)]
    have hvalue : nanos / 1000 * Nat.pow 10 (9 - 6) = nanos := by
      rw [(by decide : Nat.pow 10 (9 - 6) = 1000)]
      omega
    rw [hvalue]
  · rw [fraction (by omega) (by omega) (by omega)]
    have hvalue : nanos * Nat.pow 10 (9 - 9) = nanos := Nat.mul_one nanos
    rw [hvalue]

end Parts

/-- An instant of the years 0 to 9999. Only the last second of a minute can be a leap second. -/
structure Written (t : Stamp) : Prop where
  nanos : t.nanos < 1000000000 ∨ t.nanos < 2000000000 ∧ t.seconds % 60 = 59
  year : 0 ≤ (Date.ofDays (t.seconds.fdiv 86400)).year ∧ (Date.ofDays (t.seconds.fdiv 86400)).year ≤ 9999

section Whole

variable {year : Int} {month day hour minute second nanos : Nat} {c₁ c₂ c₃ c₄ c₅ c₆ c₇ c₈ c₉ c₁₀ c₁₁ : List Char}

theorem parse_of_parts (hyear : readYear cs = .ok (year, c₁)) (hmark₁ : readMark '-' c₁ = .ok c₂)
    (hmonth : readPart 1 12 c₂ = .ok (month, c₃)) (hmark₂ : readMark '-' c₃ = .ok c₄)
    (hday : readPart 1 31 c₄ = .ok (day, 'T' :: c₅)) (hhour : readPart 0 23 c₅ = .ok (hour, c₆))
    (hmark₃ : readMark ':' c₆ = .ok c₇) (hminute : readPart 0 59 c₇ = .ok (minute, c₈))
    (hmark₄ : readMark ':' c₈ = .ok c₉) (hsecond : readPart 0 60 c₉ = .ok (second, c₁₀))
    (hfraction : readFraction c₁₀ = .ok (nanos, ['Z']))
    (hdate : ¬ (year < yearRange.1 ∨ yearRange.2 < year ∨ daysInMonth year month < day))
    {seconds : Int} (hseconds : Date.toDays ⟨year, month, day⟩ * 86400 +
      ((hour * 3600 + minute * 60 + min second 59 : Nat) : Int) = seconds)
    (hrange : ¬ (seconds < Date.toDays ⟨yearRange.1, 1, 1⟩ * 86400 ∨
      Date.toDays ⟨yearRange.2 + 1, 1, 1⟩ * 86400 ≤ seconds)) :
    parse cs = .ok ⟨seconds, nanos + (if second = 60 then 1000000000 else 0)⟩ := by
  have hoffset : readOffset (Text.trimStart ['Z']) = .ok (0, []) := rfl
  have hzero : seconds - 0 = seconds := by omega
  simp only [parse, hyear, hmark₁, hmonth, hmark₂, hday, hhour, hmark₃, hminute, hmark₄, hsecond, hfraction,
    hoffset, bind, Except.bind, pure, Except.pure, if_neg hdate, hseconds, hzero, if_neg hrange]
  rw [if_pos (.inr (.inl trivial)), if_neg (by decide), if_neg (by decide)]

theorem readPart_second (hsecond : second ≤ 60) :
    readPart 0 60 (padded 2 second ++ (fractionText nanos ++ ['Z'])) = .ok (second, fractionText nanos ++ ['Z']) := by
  have hlength := length_padded (by omega : 1 ≤ 2) (by omega : second < 10 ^ 2)
  refine readPart_eq (spells_padded 2 second) (Nat.le_of_eq hlength) ?_ (Nat.lt_of_le_of_lt hsecond (by decide))
    ⟨Nat.zero_le _, hsecond⟩
  unfold fractionText
  split
  · exact not_isDigit_head (by decide) []
  all_goals (repeat' split) <;> exact not_isDigit_head (by decide) _

def layout (date : Date) (hour minute second nanos : Nat) : List Char :=
  yearText date.year ++ '-' :: (padded 2 date.month ++ '-' :: (padded 2 date.day ++ 'T' :: (padded 2 hour ++ ':' ::
    (padded 2 minute ++ ':' :: (padded 2 second ++ (fractionText nanos ++ ['Z']))))))

theorem parse_layout {date : Date} (hyear : 0 ≤ date.year ∧ date.year ≤ 9999)
    (hmonth : 1 ≤ date.month ∧ date.month ≤ 12) (hday : 1 ≤ date.day ∧ date.day ≤ 31)
    (hlength : date.day ≤ daysInMonth date.year date.month) (hdays : -1000000 ≤ date.toDays ∧ date.toDays ≤ 4000000)
    (hhour : hour ≤ 23) (hminute : minute ≤ 59) (hsecond : second ≤ 60) (hnanos : nanos < 1000000000) :
    parse (layout date hour minute second nanos) =
      .ok ⟨date.toDays * 86400 + ((hour * 3600 + minute * 60 + min second 59 : Nat) : Int),
        nanos + (if second = 60 then 1000000000 else 0)⟩ := by
  have hfirst : Date.toDays ⟨yearRange.1, 1, 1⟩ < -1000001 := by decide
  have hlast : Date.toDays ⟨yearRange.2 + 1, 1, 1⟩ > 4000001 := by decide
  refine parse_of_parts (readYear_eq hyear.1 hyear.2 (by decide) _) (readMark_eq (by decide) _)
    (readPart_padded (Nat.lt_of_le_of_lt hmonth.2 (by decide)) hmonth (by decide) _) (readMark_eq (by decide) _)
    (readPart_padded (Nat.lt_of_le_of_lt hday.2 (by decide)) hday (by decide) _)
    (readPart_padded (Nat.lt_of_le_of_lt hhour (by decide)) ⟨Nat.zero_le _, hhour⟩ (by decide) _)
    (readMark_eq (by decide) _)
    (readPart_padded (Nat.lt_of_le_of_lt hminute (by decide)) ⟨Nat.zero_le _, hminute⟩ (by decide) _)
    (readMark_eq (by decide) _) (readPart_second hsecond) (readFraction_eq hnanos) ?_ rfl ?_
  · simp only [yearRange]
    omega
  · omega

end Whole

/-- What is written of an instant is read as that instant. -/
theorem parse_text {t : Stamp} (ht : t.Written) : parse t.text = .ok t := by
  obtain ⟨seconds, nanos⟩ := t
  obtain ⟨hnanos, hyear⟩ := ht
  dsimp only at hnanos hyear
  have hdays : seconds.fdiv 86400 = seconds / 86400 := Int.fdiv_eq_ediv_of_nonneg _ (by omega)
  have hofDay : seconds.fmod 86400 = seconds % 86400 := Int.fmod_eq_emod_of_nonneg _ (by omega)
  obtain ⟨days, hd⟩ : ∃ days, days = seconds / 86400 := ⟨_, rfl⟩
  obtain ⟨ofDay, ho⟩ : ∃ ofDay : Nat, ofDay = (seconds % 86400).toNat := ⟨_, rfl⟩
  obtain ⟨leap, hleap⟩ : ∃ leap : Nat, leap = if 1000000000 ≤ nanos then 1 else 0 := ⟨_, rfl⟩
  obtain ⟨small, hsmall⟩ : ∃ small, small = if 1000000000 ≤ nanos then nanos - 1000000000 else nanos := ⟨_, rfl⟩
  have htext : text ⟨seconds, nanos⟩ =
      layout (Date.ofDays days) (ofDay / 3600) (ofDay / 60 % 60) (ofDay % 60 + leap) small := by
    simp only [text, layout, hdays, hofDay, ← hd, ← ho, ← hleap, ← hsmall, List.append_assoc, List.cons_append]
  rw [hdays, ← hd] at hyear
  obtain ⟨hmonth₁, hmonth₂, hday₁, hday₂, hlength⟩ := ofDays_valid days
  have htoDays := toDays_ofDays days
  have hbounds := days_of_year hyear.1 hyear.2
  have hleap' : leap ≤ 1 ∧ (leap = 1 → ofDay % 60 = 59) ∧ small < 1000000000 ∧ nanos = small + leap * 1000000000 := by
    split at hleap <;> split at hsmall <;> omega
  rw [htext, parse_layout hyear ⟨hmonth₁, hmonth₂⟩ ⟨hday₁, hday₂⟩ hlength (by rw [htoDays]; exact hbounds)
    (by omega) (by omega) (by omega) (by omega), htoDays]
  congr 2
  · omega
  · split <;> omega

end CodeRepair.Time.Stamp

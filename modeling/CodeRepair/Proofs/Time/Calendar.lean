import CodeRepair.Time.Calendar
import Mathlib.Algebra.Group.Nat.Defs

/-!
Days and dates: the date of a day is a day of the calendar, and it is that day.
-/
namespace CodeRepair.Time

/-- A day of an era: centuries, cycles of four years, years and days. -/
structure EraDay (n : Int) (a b c d : Int) : Prop where
  sum : n = 36524 * a + 1461 * b + 365 * c + d
  century : 0 ≤ a ∧ a ≤ 3
  cycle : 0 ≤ b ∧ b ≤ 24
  year : 0 ≤ c ∧ c ≤ 3
  day : 0 ≤ d ∧ d ≤ 365
  leap : d = 365 → c = 3 ∧ (b = 24 → a = 3)

theorem exists_eraDay {n : Int} (h0 : 0 ≤ n) (h1 : n ≤ 146096) : ∃ a b c d, EraDay n a b c d := by
  obtain ⟨a, ha⟩ : ∃ a, a = if n / 36524 = 4 then 3 else n / 36524 := ⟨_, rfl⟩
  obtain ⟨r, hr⟩ : ∃ r, r = n - 36524 * a := ⟨_, rfl⟩
  obtain ⟨q, hq⟩ : ∃ q, q = r - 1461 * (r / 1461) := ⟨_, rfl⟩
  obtain ⟨c, hc⟩ : ∃ c, c = if q / 365 = 4 then 3 else q / 365 := ⟨_, rfl⟩
  refine ⟨a, r / 1461, c, q - 365 * c, ?_, ?_, ?_, ?_, ?_, ?_⟩
  all_goals (split at ha <;> split at hc <;> omega)

/-- The corrections for leap days cancel out. -/
theorem EraDay.yearOfEra {n a b c d : Int} (h : EraDay n a b c d) :
    (n - n / 1460 + n / 36524 - n / 146096) / 365 = 100 * a + 4 * b + c := by
  obtain ⟨hn, ha, hb, hc, hd, hl⟩ := h
  have hcentury : n / 36524 - n / 146096 = a := by
    by_cases hlast : d = 365 ∧ b = 24
    · have hc3 := (hl hlast.1).1
      have ha3 := (hl hlast.1).2 hlast.2
      omega
    · have hrest : 1461 * b + 365 * c + d ≤ 36523 := by omega
      have hwhole : n / 146096 = 0 := by omega
      omega
  obtain ⟨s, hs⟩ : ∃ s, s = 24 * a + b + 365 * c + d := ⟨_, rfl⟩
  have hcycle : n / 1460 = 25 * a + b + s / 1460 := by omega
  have hday : 0 ≤ d - s / 1460 ∧ d - s / 1460 ≤ 364 := by omega
  omega

/-- The first day of a year of an era, counted from the first day of the era. -/
def startOf (y : Int) : Int := 365 * y + y / 4 - y / 100

theorem EraDay.dayOfYear {n a b c d : Int} (h : EraDay n a b c d) :
    n - startOf (100 * a + 4 * b + c) = d := by
  obtain ⟨hn, ha, hb, hc, hd, hl⟩ := h
  have hfour : (100 * a + 4 * b + c) / 4 = 25 * a + b := by omega
  have hhundred : (100 * a + 4 * b + c) / 100 = a := by omega
  rw [startOf, hfour, hhundred]
  omega

structure MonthDay (d mp day : Int) : Prop where
  month : 0 ≤ mp ∧ mp ≤ 11
  sum : d = (153 * mp + 2) / 5 + day - 1
  range : 1 ≤ day ∧ day ≤ 31
  short : mp = 1 ∨ mp = 3 ∨ mp = 6 ∨ mp = 8 → day ≤ 30
  february : mp = 11 → day ≤ 29 ∧ (day = 29 → d = 365)

theorem monthDay {d : Int} (h0 : 0 ≤ d) (h1 : d ≤ 365) :
    MonthDay d ((5 * d + 2) / 153) (d - (153 * ((5 * d + 2) / 153) + 2) / 5 + 1) := by
  obtain ⟨mp, hmp⟩ : ∃ mp, mp = (5 * d + 2) / 153 := ⟨_, rfl⟩
  rw [← hmp]
  have hrange : 0 ≤ mp ∧ mp ≤ 11 := by omega
  refine ⟨hrange, by omega, ?_, ?_, ?_⟩
  · omega
  · rintro (rfl | rfl | rfl | rfl) <;> omega
  · rintro rfl
    omega

/-- The date of a day, by its era, its place in the era, and its place in the year. -/
structure Placed (days : Int) (era n a b c d mp day : Int) : Prop where
  sum : days + 719468 = era * 146097 + n
  inEra : EraDay n a b c d
  inYear : MonthDay d mp day
  date : Date.ofDays days =
    ⟨100 * a + 4 * b + c + era * 400 + (if 10 ≤ mp then 1 else 0), (if 10 ≤ mp then mp - 9 else mp + 3).toNat,
      day.toNat⟩

theorem exists_placed (days : Int) : ∃ era n a b c d mp day, Placed days era n a b c d mp day := by
  have hera : (days + 719468).fdiv 146097 = (days + 719468) / 146097 := Int.fdiv_eq_ediv_of_nonneg _ (by omega)
  obtain ⟨n, hn⟩ : ∃ n, n = days + 719468 - (days + 719468) / 146097 * 146097 := ⟨_, rfl⟩
  obtain ⟨a, b, c, d, h⟩ := exists_eraDay (by omega : 0 ≤ n) (by omega : n ≤ 146096)
  have hmonth := monthDay h.day.1 h.day.2
  refine ⟨(days + 719468) / 146097, n, a, b, c, d, _, _, by omega, h, hmonth, ?_⟩
  have hdoy := h.dayOfYear
  rw [startOf] at hdoy
  simp only [Date.ofDays, hera, ← hn, h.yearOfEra, hdoy]
  generalize (5 * d + 2) / 153 = mp at hmonth ⊢
  have hmp := hmonth.month
  by_cases hlate : 10 ≤ mp
  · have hsmall : mp - 9 ≤ 2 := by omega
    simp only [if_neg (by omega : ¬ mp < 10), if_pos hlate, if_pos hsmall]
  · have hlarge : ¬ mp + 3 ≤ 2 := by omega
    simp only [if_pos (by omega : mp < 10), if_neg hlate, if_neg hlarge]

theorem toDays_ofDays (days : Int) : (Date.ofDays days).toDays = days := by
  obtain ⟨era, n, a, b, c, d, mp, day, hp⟩ := exists_placed days
  obtain ⟨hn, ha, hb, hc, hd, -⟩ := hp.inEra
  have hstart := hp.inEra.dayOfYear
  have hmp := hp.inYear.month
  have hday := hp.inYear.range
  have hsum := hp.inYear.sum
  obtain ⟨y, hy⟩ : ∃ y, y = 100 * a + 4 * b + c := ⟨_, rfl⟩
  have hera : (y + era * 400).fdiv 400 = era := by
    rw [Int.fdiv_eq_ediv_of_nonneg _ (by omega)]
    omega
  have hyear : y + era * 400 - era * 400 = y := by omega
  have hmarch : ((mp.toNat : Nat) : Int) = mp := by omega
  have hdays : ((day.toNat : Nat) : Int) = day := by omega
  have hdate := hp.date
  have hfrom := hp.sum
  rw [← hy] at hdate hstart
  rw [startOf] at hstart
  by_cases hlate : 10 ≤ mp
  · simp only [if_pos hlate] at hdate
    have hmonth : (mp - 9).toNat ≤ 2 := by omega
    have hmonths : ((mp - 9).toNat + 9) % 12 = mp.toNat := by omega
    have hbefore : y + era * 400 + 1 - 1 = y + era * 400 := by omega
    rw [hdate, Date.toDays]
    simp only [if_pos hmonth, hbefore, hera, hyear, hmonths, hmarch, hdays]
    omega
  · simp only [if_neg hlate] at hdate
    have hmonth : ¬ (mp + 3).toNat ≤ 2 := by omega
    have hmonths : ((mp + 3).toNat + 9) % 12 = mp.toNat := by omega
    have hsame : y + era * 400 + 0 = y + era * 400 := by omega
    rw [hdate, Date.toDays]
    simp only [if_neg hmonth, hsame, hera, hyear, hmonths, hmarch, hdays]
    omega

/-- The year that has 366 days is a leap year; its leap day is counted to the year from March before. -/
theorem EraDay.isLeapYear {n a b c d : Int} (h : EraDay n a b c d) (hd : d = 365) (era : Int) :
    Time.isLeapYear (100 * a + 4 * b + c + era * 400 + 1) = true := by
  obtain ⟨hc, hab⟩ := h.leap hd
  obtain ⟨-, ha, hb, -, -, -⟩ := h
  have hfour : (100 * a + 4 * b + c + era * 400 + 1) % 4 = 0 := by omega
  have hhundred : (100 * a + 4 * b + c + era * 400 + 1) % 100 ≠ 0 ∨
      (100 * a + 4 * b + c + era * 400 + 1) % 400 = 0 := by
    by_cases hlast : b = 24
    · have ha3 := hab hlast
      exact .inr (by omega)
    · exact .inl (by omega)
  rcases hhundred with hne | hzero
  · simp [Time.isLeapYear, hfour, hne]
  · simp [Time.isLeapYear, hfour, hzero]

/-- The date of a day has a month of the year and a day of that month. -/
theorem ofDays_valid (days : Int) :
    1 ≤ (Date.ofDays days).month ∧ (Date.ofDays days).month ≤ 12 ∧ 1 ≤ (Date.ofDays days).day ∧
      (Date.ofDays days).day ≤ 31 ∧
      (Date.ofDays days).day ≤ daysInMonth (Date.ofDays days).year (Date.ofDays days).month := by
  obtain ⟨era, n, a, b, c, d, mp, day, hp⟩ := exists_placed days
  obtain ⟨hmp, hsum, hrange, hshort, hfebruary⟩ := hp.inYear
  rw [hp.date]
  dsimp only
  have hmonth : mp = 11 ∨ (mp = 1 ∨ mp = 3 ∨ mp = 6 ∨ mp = 8) ∨
      (mp = 0 ∨ mp = 2 ∨ mp = 4 ∨ mp = 5 ∨ mp = 7 ∨ mp = 9 ∨ mp = 10) := by omega
  rcases hmonth with rfl | hmonth | hmonth
  · have hlength : day.toNat ≤ daysInMonth (100 * a + 4 * b + c + era * 400 + 1) 2 := by
      obtain ⟨hle, hleap⟩ := hfebruary rfl
      by_cases hlast : day = 29
      · have hyear := hp.inEra.isLeapYear (hleap hlast) era
        simp only [daysInMonth, if_true, hyear]
        omega
      · have hmin : 28 ≤ daysInMonth (100 * a + 4 * b + c + era * 400 + 1) 2 := by
          simp only [daysInMonth, if_true]
          split <;> omega
        omega
    exact ⟨by decide, by decide, by omega, by omega, hlength⟩
  · have hle := hshort hmonth
    rcases hmonth with rfl | rfl | rfl | rfl
    all_goals exact ⟨by decide, by decide, by omega, by omega, (by omega : day.toNat ≤ 30)⟩
  · rcases hmonth with rfl | rfl | rfl | rfl | rfl | rfl | rfl
    all_goals exact ⟨by decide, by decide, by omega, by omega, (by omega : day.toNat ≤ 31)⟩

theorem days_of_year {days : Int} (h0 : 0 ≤ (Date.ofDays days).year) (h1 : (Date.ofDays days).year ≤ 9999) :
    -1000000 ≤ days ∧ days ≤ 4000000 := by
  obtain ⟨era, n, a, b, c, d, mp, day, hp⟩ := exists_placed days
  obtain ⟨hn, ha, hb, hc, hd, -⟩ := hp.inEra
  have hfrom := hp.sum
  rw [hp.date] at h0 h1
  dsimp only at h0 h1
  split at h0 <;> split at h1 <;> omega

end CodeRepair.Time

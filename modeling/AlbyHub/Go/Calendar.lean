import AlbyHub.Go.Tiling
import Mathlib.Data.Nat.Find
import Mathlib.Tactic.IntervalCases

/-!
# The Gregorian calendar

The proleptic Gregorian calendar on days that are counted from 0000-01-01. Months are counted from
January of the year 0, so that the month 12 of a year is the first of the next. The years and the
months tile the days (`years`, `months`), and `monthOf` is the month that holds a day.
-/

namespace Calendar

/-- The days before the year, counted from the year 0: 365 for each, and one more for each leap
year. Reference: Go `time`, `daysSinceEpoch`. -/
def yearStart (y : ℤ) : ℤ := 365 * y + (y + 3) / 4 - (y + 99) / 100 + (y + 399) / 400

/-- Reference: Go `time`, `isLeap`. -/
def isLeap (y : ℤ) : Bool := y % 4 = 0 ∧ (y % 100 ≠ 0 ∨ y % 400 = 0)

/-- The days of a year before its month `m`, where January is 0. Reference: Go `time`,
`daysBefore`. -/
def daysBefore (leap : Bool) (m : ℤ) : ℤ :=
  [0, 31, 59, 90, 120, 151, 181, 212, 243, 273, 304, 334].getD m.toNat 0 +
    if leap ∧ 2 ≤ m then 1 else 0

/-- The first day of a month. Reference: Go `time.Date`. -/
def monthStart (k : ℤ) : ℤ := yearStart (k / 12) + daysBefore (isLeap (k / 12)) (k % 12)

/-- The year that holds a day: an estimate by the mean length of a year, which is off by one at
most. Reference: Go `time.Time.Year`. -/
def yearOf (n : ℤ) : ℤ :=
  let y := n * 400 / 146097
  if n < yearStart y then y - 1 else if yearStart (y + 1) ≤ n then y + 1 else y

/-- The month that holds a day: the last one of its year that has begun. Reference: Go
`time.Time.Month`. -/
def monthOf (n : ℤ) : ℤ :=
  let y := yearOf n
  12 * y + Nat.findGreatest (fun m => monthStart (12 * y + m) ≤ n) 11

theorem yearStart_succ (y : ℤ) :
    yearStart (y + 1) = yearStart y + if isLeap y then 366 else 365 := by
  unfold yearStart isLeap
  split <;> rename_i h <;> simp only [decide_eq_true_eq] at h <;> omega

/-- The years, one after the other. Reference: Go `time.Date`. -/
def years : Tiling where
  start := yearStart
  strictMono := strictMono_int_of_lt_succ fun y => by
    rw [yearStart_succ]
    split <;> omega

theorem years_at (n : ℤ) : years.At (yearOf n) n := by
  -- the estimate is at most one year away
  have hlow : yearStart (n * 400 / 146097 - 1) ≤ n := by
    unfold yearStart
    omega
  have hup : n < yearStart (n * 400 / 146097 + 2) := by
    unfold yearStart
    omega
  unfold Tiling.At years yearOf
  dsimp only
  split
  · next hlt => exact ⟨hlow, by rwa [Int.sub_add_cancel]⟩
  · next hge =>
    split
    · next hle => exact ⟨hle, by rwa [Int.add_assoc]⟩
    · next hlt => exact ⟨not_lt.1 hge, not_le.1 hlt⟩

/-- The month `m` of the year, where January is 0. Reference: Go `time.Date`. -/
theorem monthStart_add (y : ℤ) {m : ℤ} (h0 : 0 ≤ m) (h12 : m < 12) :
    monthStart (12 * y + m) = yearStart y + daysBefore (isLeap y) m := by
  have hdiv : (12 * y + m) / 12 = y := by omega
  have hmod : (12 * y + m) % 12 = m := by omega
  rw [monthStart, hdiv, hmod]

theorem daysBefore_zero (leap : Bool) : daysBefore leap 0 = 0 := by cases leap <;> rfl

/-- A year starts with its January. Reference: Go `time.Date`. -/
theorem monthStart_year (y : ℤ) : monthStart (12 * y) = yearStart y := by
  have h := monthStart_add y (le_refl 0) (by norm_num)
  rwa [Int.add_zero, daysBefore_zero, Int.add_zero] at h

theorem daysBefore_lt (leap : Bool) {m : ℤ} (h0 : 0 ≤ m) (h11 : m < 11) :
    daysBefore leap m < daysBefore leap (m + 1) := by
  interval_cases m <;> cases leap <;> decide

theorem daysBefore_last (leap : Bool) : daysBefore leap 11 < if leap then 366 else 365 := by
  cases leap <;> decide

theorem monthStart_lt_succ (k : ℤ) : monthStart k < monthStart (k + 1) := by
  obtain ⟨y, m, h0, h12, rfl⟩ : ∃ y m : ℤ, 0 ≤ m ∧ m < 12 ∧ k = 12 * y + m :=
    ⟨k / 12, k % 12, by omega, by omega, by omega⟩
  rw [monthStart_add y h0 h12]
  rcases lt_or_eq_of_le (show m ≤ 11 by omega) with h11 | rfl
  · rw [Int.add_assoc, monthStart_add y (by omega) (by omega)]
    exact Int.add_lt_add_left (daysBefore_lt _ h0 h11) _
  · -- the next month is the January of the next year
    have hnext : 12 * y + 11 + 1 = 12 * (y + 1) := by omega
    rw [hnext, monthStart_year, yearStart_succ]
    exact Int.add_lt_add_left (daysBefore_last _) _

/-- The months, one after the other. Reference: Go `time.Date`. -/
def months : Tiling where
  start := monthStart
  strictMono := strictMono_int_of_lt_succ monthStart_lt_succ

theorem months_at (n : ℤ) : months.At (monthOf n) n := by
  obtain ⟨hlow, hup⟩ := years_at n
  let begun : ℕ → Prop := fun m => monthStart (12 * yearOf n + m) ≤ n
  have hzero : begun 0 := by
    show monthStart (12 * yearOf n + (0 : ℕ)) ≤ n
    rw [Nat.cast_zero, Int.add_zero, monthStart_year]
    exact hlow
  refine ⟨Nat.findGreatest_spec (P := begun) (Nat.zero_le 11) hzero, ?_⟩
  show n < monthStart (12 * yearOf n + (Nat.findGreatest begun 11 : ℕ) + 1)
  rcases lt_or_eq_of_le (Nat.findGreatest_le (P := begun) 11) with hlt | hlast
  · have hnot := Nat.findGreatest_is_greatest (P := begun) (Nat.lt_succ_self _) hlt
    have hnext : (12 * yearOf n + (Nat.findGreatest begun 11 : ℕ) + 1 : ℤ) =
        12 * yearOf n + (Nat.findGreatest begun 11 + 1 : ℕ) := by
      push_cast
      omega
    rw [hnext]
    exact not_le.1 hnot
  · have hnext : (12 * yearOf n + (11 : ℕ) + 1 : ℤ) = 12 * (yearOf n + 1) := by omega
    rw [hlast, hnext, monthStart_year]
    exact hup

/-- The year of the month that holds a day is the year that holds it. Reference: Go
`time.Time.Date`. -/
theorem monthOf_div (n : ℤ) : monthOf n / 12 = yearOf n := by
  have hle := Nat.findGreatest_le (P := fun m => monthStart (12 * yearOf n + m) ≤ n) 11
  unfold monthOf
  dsimp only
  omega

/-- The month that holds its own first day. Reference: none. -/
theorem monthOf_start (k : ℤ) : monthOf (monthStart k) = k :=
  (months_at _).unique (months.at_start k)

/-- The days, one after the other. Reference: none. -/
def days : Tiling where
  start k := k
  strictMono := strictMono_id

theorem days_at (n : ℤ) : days.At n n := ⟨le_refl n, Int.lt_succ n⟩

/-- The weeks from Monday on; the year 0 begins on a Saturday. Reference: ISO 8601. -/
def weeks : Tiling where
  start k := 7 * k + 2
  strictMono _ _ hkl := by
    dsimp only
    omega

theorem weeks_next (k : ℤ) : weeks.start (k + 1) = weeks.start k + 7 := by
  simp only [weeks]
  omega

/-- The week that holds a day. Reference: none. -/
def weekOf (n : ℤ) : ℤ := (n - 2) / 7

theorem weeks_at (n : ℤ) : weeks.At (weekOf n) n := by
  unfold Tiling.At weeks weekOf
  dsimp only
  omega

-- 1970-01-01, 2000-02-29 and 2024-12-31
example : yearStart 1970 = 719528 ∧ monthOf 730544 = 12 * 2000 + 1 ∧ yearOf 739616 = 2024 := by
  decide +kernel

end Calendar

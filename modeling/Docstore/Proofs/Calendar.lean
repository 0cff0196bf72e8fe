import Docstore.Calendar
import Mathlib

/-!
# `Docstore.Proofs.Calendar` — dates and day numbers

A day number counts days, and a date tells them apart by year, month and day; the two are the same thing. A
year begins where the one before it ends, 365 or 366 days on, and so does a month within its year. So a day
lies in one year only, in one month of that year only, and on one day of that month only.

`Date.ofDayNumber` guesses the year and corrects the guess by one year at most, and it passes over the months
one by one. Both searches end where the day lies.

## Contents
- **Years.** `daysInYear`; `daysBeforeYear_succ`, and `yearOfDay_iff` for the year found.
- **Months.** `daysBeforeMonth_succ`, `monthOfDay_unique`, and `findMonth_spec` for the month found.
- **Day numbers.** `isValid_ofDayNumber`, `dayNumber_ofDayNumber`, `ofDayNumber_dayNumber`.
- **Shifting by months.** `monthIndex_addMonths`, `isValid_addMonths`.
-/

namespace Docstore.Calendar

variable {year : Int} {month : Nat} {date other : Date}

/-! ## Years -/

/-- The length of a year. -/
def daysInYear (year : Int) : Nat := if isLeap year then 366 else 365

theorem isLeap_iff : isLeap year = true ↔ year % 4 = 0 ∧ (year % 100 ≠ 0 ∨ year % 400 = 0) := by
  simp [isLeap]

/-- **A year begins where the one before it ends.** -/
theorem daysBeforeYear_succ (year : Int) :
    daysBeforeYear (year + 1) = daysBeforeYear year + daysInYear year := by
  unfold daysBeforeYear daysInYear
  dsimp only
  by_cases hleap : isLeap year
  · rw [if_pos hleap]
    rw [isLeap_iff] at hleap
    omega
  · rw [if_neg hleap]
    rw [isLeap_iff] at hleap
    omega

theorem daysBeforeYear_strictMono : StrictMono daysBeforeYear := by
  apply strictMono_int_of_lt_succ
  intro year
  have hlength : 0 < daysInYear year := by
    unfold daysInYear
    split <;> decide
  rw [daysBeforeYear_succ]
  omega

/-- The guess of `yearOfDay` is wrong by one year at most. -/
theorem guess_near (days : Int) : daysBeforeYear (days * 400 / 146097 - 1) ≤ days ∧
    days < daysBeforeYear (days * 400 / 146097 + 1 + 1) := by
  unfold daysBeforeYear
  dsimp only
  omega

/-- A day lies in the year that is found for it. -/
theorem yearOfDay_spec (days : Int) :
    daysBeforeYear (yearOfDay days) ≤ days ∧ days < daysBeforeYear (yearOfDay days + 1) := by
  obtain ⟨hlow, hhigh⟩ := guess_near days
  unfold yearOfDay
  dsimp only
  split_ifs with hbefore hafter
  · exact ⟨hlow, by rwa [Int.sub_add_cancel]⟩
  · exact ⟨hafter, hhigh⟩
  · exact ⟨Int.not_lt.mp hbefore, Int.not_le.mp hafter⟩

/-- **It lies in no other year.** -/
theorem yearOfDay_iff {days : Int} :
    yearOfDay days = year ↔ daysBeforeYear year ≤ days ∧ days < daysBeforeYear (year + 1) := by
  obtain ⟨hlow, hhigh⟩ := yearOfDay_spec days
  constructor
  · rintro rfl
    exact ⟨hlow, hhigh⟩
  · intro h
    have hle : yearOfDay days < year + 1 :=
      daysBeforeYear_strictMono.lt_iff_lt.mp (Int.lt_of_le_of_lt hlow h.2)
    have hge : year < yearOfDay days + 1 :=
      daysBeforeYear_strictMono.lt_iff_lt.mp (Int.lt_of_le_of_lt h.1 hhigh)
    omega

/-! ## Months -/

/-- **A month begins where the one before it ends.** -/
theorem daysBeforeMonth_succ (year : Int) (hmonth : 1 ≤ month) :
    daysBeforeMonth year (month + 1) = daysBeforeMonth year month + daysInMonth year month := by
  obtain ⟨before, rfl⟩ := Nat.exists_eq_add_of_le' hmonth
  rfl

/-- Twelve months make a year. -/
theorem daysBeforeMonth_thirteen (year : Int) : daysBeforeMonth year 13 = daysInYear year := by
  unfold daysInYear
  by_cases hleap : isLeap year
  · simp [daysBeforeMonth, daysInMonth, hleap]
  · simp [daysBeforeMonth, daysInMonth, hleap]

theorem daysBeforeMonth_mono (year : Int) : Monotone (daysBeforeMonth year) := by
  apply monotone_nat_of_le_succ
  intro month
  cases month with
  | zero => exact Nat.le_refl 0
  | succ before => exact Nat.le_add_right _ _

theorem one_le_daysInMonth (year : Int) (month : Nat) : 1 ≤ daysInMonth year month := by
  unfold daysInMonth
  split
  · split <;> decide
  all_goals decide

/-- Months that hold the same day of the year are one month. -/
theorem monthOfDay_unique {other days : Nat}
    (h : daysBeforeMonth year month ≤ days ∧ days < daysBeforeMonth year (month + 1))
    (hother : daysBeforeMonth year other ≤ days ∧ days < daysBeforeMonth year (other + 1)) :
    month = other := by
  -- the later of two months would begin before the day and end after it
  have hlt : ∀ {a b}, daysBeforeMonth year a ≤ days → days < daysBeforeMonth year (b + 1) → a < b + 1 :=
    fun ha hb => (daysBeforeMonth_mono year).reflect_lt (Nat.lt_of_le_of_lt ha hb)
  have hle := hlt h.1 hother.2
  have hge := hlt hother.1 h.2
  omega

/-- **Looking through the months ends in the month of the day.** The day is counted from the first of the
month that comes next, and lies in one of those that are left. -/
theorem findMonth_spec {left days : Nat} (hmonth : 1 ≤ month)
    (hdays : daysBeforeMonth year month + days < daysBeforeMonth year (month + left + 1)) :
    ∃ found day, findMonth year left month days = (found, day) ∧ month ≤ found ∧ found ≤ month + left ∧
      1 ≤ day ∧ day ≤ daysInMonth year found ∧
      daysBeforeMonth year found + day = daysBeforeMonth year month + days + 1 := by
  induction left generalizing month days with
  | zero =>
      have hnext := daysBeforeMonth_succ year hmonth
      rw [Nat.add_zero] at hdays
      exact ⟨month, days + 1, rfl, by omega⟩
  | succ left ih =>
      have hnext := daysBeforeMonth_succ year hmonth
      unfold findMonth
      by_cases hhere : days < daysInMonth year month
      · rw [if_pos hhere]
        exact ⟨month, days + 1, rfl, by omega⟩
      · rw [if_neg hhere]
        have hrest : daysBeforeMonth year (month + 1) + (days - daysInMonth year month) <
            daysBeforeMonth year (month + 1 + left + 1) := by
          rw [Nat.add_right_comm month 1 left, hnext]
          have hshift : month + (left + 1) + 1 = month + left + 1 + 1 := rfl
          rw [hshift] at hdays
          omega
        obtain ⟨found, day, hfound, hmonths⟩ := ih (Nat.le_add_left 1 month) hrest
        exact ⟨found, day, hfound, by omega⟩

/-! ## Day numbers -/

theorem isValid_iff : date.isValid = true ↔
    1 ≤ date.month ∧ date.month ≤ 12 ∧ 1 ≤ date.day ∧ date.day ≤ daysInMonth date.year date.month := by
  simp [Date.isValid, and_assoc]

/-- The day of the year, counted from zero. -/
def Date.dayOfYear (date : Date) : Nat := daysBeforeMonth date.year date.month + (date.day - 1)

/-- The number of a day counts the days of the years before it and those of its own year. -/
theorem dayNumber_eq (h : date.isValid = true) :
    date.dayNumber = yearZero + daysBeforeYear date.year + date.dayOfYear := by
  obtain ⟨-, -, hday, -⟩ := isValid_iff.mp h
  unfold Date.dayNumber Date.dayOfYear
  omega

/-- A date lies in its month. -/
theorem dayOfYear_mem_month (h : date.isValid = true) :
    daysBeforeMonth date.year date.month ≤ date.dayOfYear ∧
      date.dayOfYear < daysBeforeMonth date.year (date.month + 1) := by
  obtain ⟨hmonth, -, hday, hlength⟩ := isValid_iff.mp h
  have hnext := daysBeforeMonth_succ date.year hmonth
  unfold Date.dayOfYear
  omega

/-- A date lies in its year. -/
theorem dayNumber_mem_year (h : date.isValid = true) :
    daysBeforeYear date.year ≤ date.dayNumber - yearZero ∧
      date.dayNumber - yearZero < daysBeforeYear (date.year + 1) := by
  obtain ⟨-, htwelve, -, -⟩ := isValid_iff.mp h
  have hlast : daysBeforeMonth date.year (date.month + 1) ≤ daysInYear date.year := by
    rw [← daysBeforeMonth_thirteen]
    exact daysBeforeMonth_mono date.year (by omega)
  have hmonth := (dayOfYear_mem_month h).2
  rw [dayNumber_eq h, daysBeforeYear_succ]
  omega

/-- **A day has one date.** -/
theorem eq_of_dayNumber_eq (h : date.isValid = true) (hother : other.isValid = true)
    (heq : date.dayNumber = other.dayNumber) : date = other := by
  have hyear : date.year = other.year := by
    rw [← yearOfDay_iff.mpr (dayNumber_mem_year h), heq]
    exact yearOfDay_iff.mpr (dayNumber_mem_year hother)
  have hofYear : date.dayOfYear = other.dayOfYear := by
    rw [dayNumber_eq h, dayNumber_eq hother, hyear] at heq
    omega
  have hmonth : date.month = other.month := by
    have hin := dayOfYear_mem_month h
    rw [hofYear, hyear] at hin
    exact monthOfDay_unique hin (dayOfYear_mem_month hother)
  have hday : date.day = other.day := by
    obtain ⟨-, -, hfirst, -⟩ := isValid_iff.mp h
    obtain ⟨-, -, hfirst', -⟩ := isValid_iff.mp hother
    unfold Date.dayOfYear at hofYear
    rw [hyear, hmonth] at hofYear
    omega
  cases date
  cases other
  simp_all

/-- The date found for a day is a date, and the date of that day. -/
theorem ofDayNumber_spec (n : Int) :
    (Date.ofDayNumber n).isValid = true ∧ (Date.ofDayNumber n).dayNumber = n := by
  obtain ⟨hlow, hhigh⟩ := yearOfDay_spec (n - yearZero)
  rw [daysBeforeYear_succ] at hhigh
  unfold Date.ofDayNumber
  dsimp only
  generalize yearOfDay (n - yearZero) = year at hlow hhigh ⊢
  have hdays : daysBeforeMonth year 1 + (n - yearZero - daysBeforeYear year).toNat <
      daysBeforeMonth year (1 + 11 + 1) := by
    rw [daysBeforeMonth_thirteen]
    show 0 + _ < _
    omega
  obtain ⟨month, day, hfound, hmonth, htwelve, hday, hlength, hcount⟩ := findMonth_spec (Nat.le_refl 1) hdays
  have hfirst : daysBeforeMonth year 1 = 0 := rfl
  rw [hfound]
  constructor
  · exact isValid_iff.mpr ⟨hmonth, htwelve, hday, hlength⟩
  · unfold Date.dayNumber
    dsimp only
    omega

theorem isValid_ofDayNumber (n : Int) : (Date.ofDayNumber n).isValid = true := (ofDayNumber_spec n).1

theorem dayNumber_ofDayNumber (n : Int) : (Date.ofDayNumber n).dayNumber = n := (ofDayNumber_spec n).2

/-- **Dates and day numbers are the same thing.** -/
theorem ofDayNumber_dayNumber (h : date.isValid = true) : Date.ofDayNumber date.dayNumber = date :=
  eq_of_dayNumber_eq (isValid_ofDayNumber _) h (dayNumber_ofDayNumber _)

/-- The day that the count starts from, a leap day of a century, and the day before the year one. -/
example : Date.ofDayNumber 0 = ⟨1970, 1, 1⟩ ∧ Date.ofDayNumber 11016 = ⟨2000, 2, 29⟩ ∧
    Date.ofDayNumber (-719163) = ⟨0, 12, 31⟩ := by decide

/-! ## Shifting by months -/

/-- Months are counted through from year to year. -/
theorem monthIndex_div (h : date.isValid = true) : date.monthIndex / 12 = date.year := by
  obtain ⟨hmonth, htwelve, -, -⟩ := isValid_iff.mp h
  unfold Date.monthIndex
  omega

/-- Adding months moves the index of the month by their number. -/
@[simp]
theorem monthIndex_addMonths (date : Date) (months : Int) :
    (date.addMonths months).monthIndex = date.monthIndex + months := by
  unfold Date.addMonths
  generalize date.monthIndex + months = index
  unfold Date.monthIndex
  dsimp only
  omega

theorem isValid_addMonths (h : date.isValid = true) (months : Int) :
    (date.addMonths months).isValid = true := by
  obtain ⟨-, -, hday, -⟩ := isValid_iff.mp h
  unfold Date.addMonths
  generalize date.monthIndex + months = index
  rw [isValid_iff]
  dsimp only
  have hlength := one_le_daysInMonth (index / 12) ((index % 12).toNat + 1)
  refine ⟨by omega, by omega, ?_, Nat.min_le_right _ _⟩
  exact Nat.le_min.mpr ⟨hday, hlength⟩

end Docstore.Calendar

/-!
# `Docstore.Calendar` — the proleptic Gregorian calendar

Days are counted from 1 January 1970. `Date.dayNumber` and `Date.ofDayNumber` convert between the
count and a date; years are integers, year 0 before year 1.
-/

namespace Docstore.Calendar

/-- A day of the calendar. Months and days count from one. -/
structure Date where
  year : Int
  month : Nat
  day : Nat
deriving DecidableEq, Repr, Inhabited

/-! ## Years -/

/-- Every fourth year is a leap year, except those of the centuries not divisible by four hundred. -/
def isLeap (year : Int) : Bool := year % 4 == 0 && (year % 100 != 0 || year % 400 == 0)

/-- The days from 1 January of year 0 to 1 January of a year. -/
def daysBeforeYear (year : Int) : Int :=
  let past := year - 1
  365 * year + past / 4 - past / 100 + past / 400 + 1

/-- The day number of 1 January of year 0. -/
def yearZero : Int := -719528

/-- The year that contains a day, counted from 1 January of year 0. Four hundred years have 146097
days, which brings the first guess within a year of the answer. -/
def yearOfDay (days : Int) : Int :=
  let guess := days * 400 / 146097
  if days < daysBeforeYear guess then guess - 1
  else if daysBeforeYear (guess + 1) ≤ days then guess + 1
  else guess

/-! ## Months -/

/-- The length of a month. -/
def daysInMonth (year : Int) (month : Nat) : Nat :=
  match month with
  | 2 => if isLeap year then 29 else 28
  | 4 | 6 | 9 | 11 => 30
  | _ => 31

/-- The days of a year before the first of a month. -/
def daysBeforeMonth (year : Int) : Nat → Nat
  | 0 | 1 => 0
  | month + 2 => daysBeforeMonth year (month + 1) + daysInMonth year (month + 1)

/-- The month and day of a day of the year counted from zero, looking at `month` and up to `left`
months after it. -/
def findMonth (year : Int) : (left month days : Nat) → Nat × Nat
  | 0, month, days => (month, days + 1)
  | left + 1, month, days =>
    if days < daysInMonth year month then (month, days + 1)
    else findMonth year left (month + 1) (days - daysInMonth year month)

/-! ## Day numbers -/

/-- Is there such a day? -/
def Date.isValid (d : Date) : Bool :=
  1 ≤ d.month && d.month ≤ 12 && 1 ≤ d.day && d.day ≤ daysInMonth d.year d.month

/-- The days from 1 January 1970 to a date. -/
def Date.dayNumber (d : Date) : Int :=
  yearZero + daysBeforeYear d.year + daysBeforeMonth d.year d.month + (d.day - 1)

/-- The date a number of days after 1 January 1970. -/
def Date.ofDayNumber (n : Int) : Date :=
  let days := n - yearZero
  let year := yearOfDay days
  let (month, day) := findMonth year 11 1 (days - daysBeforeYear year).toNat
  ⟨year, month, day⟩

/-! ## Shifting by months -/

/-- The months from January of year 0 to the month of a date. -/
def Date.monthIndex (d : Date) : Int := 12 * d.year + (d.month - 1)

/-- The date some months away: the same day of the month, or the last one if the month is too
short. -/
def Date.addMonths (d : Date) (months : Int) : Date :=
  let index := d.monthIndex + months
  let year := index / 12
  let month := (index % 12).toNat + 1
  ⟨year, month, min d.day (daysInMonth year month)⟩

end Docstore.Calendar

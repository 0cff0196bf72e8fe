import Docstore.Instant.Basic

/-!
# `Docstore.Instant.Shift` — moving an instant by calendar and clock units

`shift?` moves an instant by a whole number of units. Years, quarters and months keep the time of day
and cut the day of the month to the length of the target month; the other units have a fixed length.

Shifting works on the years `firstYear` to `lastYear`. An instant outside them is first moved to the
nearest one inside, and a result outside them is none. So is a move by more than `maxMonths` or
`maxMillis`, before any date is looked at.
-/

namespace Docstore.Instant

open Calendar

/-! ## Units -/

/-- The units that an instant is moved by. -/
inductive TimeUnit where
  | year | quarter | month | week | day | hour | minute | second | millisecond
deriving DecidableEq, Repr

/-- What one unit amounts to. -/
inductive Length where
  /-- A number of calendar months. -/
  | months (count : Int)
  /-- A number of milliseconds. -/
  | millis (count : Int)
deriving DecidableEq, Repr

/-- The length of a unit. -/
def TimeUnit.length : TimeUnit → Length
  | year => .months 12
  | quarter => .months 3
  | month => .months 1
  | week => .millis 604800000
  | day => .millis 86400000
  | hour => .millis 3600000
  | minute => .millis 60000
  | second => .millis 1000
  | millisecond => .millis 1

/-- The unit of a given name. -/
def TimeUnit.ofName? (name : String) : Option TimeUnit :=
  if name = "year" then some year
  else if name = "quarter" then some quarter
  else if name = "month" then some month
  else if name = "week" then some week
  else if name = "day" then some day
  else if name = "hour" then some hour
  else if name = "minute" then some minute
  else if name = "second" then some second
  else if name = "millisecond" then some millisecond
  else none

/-! ## Range -/

/-- The first year that shifting knows. -/
def firstYear : Int := -262143

/-- The last year that shifting knows. -/
def lastYear : Int := 262142

/-- The first millisecond of the first year. -/
def earliest : Int := (Date.mk firstYear 1 1).dayNumber * millisPerDay

/-- The last millisecond of the last year. -/
def latest : Int := (Date.mk (lastYear + 1) 1 1).dayNumber * millisPerDay - 1

/-- The nearest millisecond that shifting knows. -/
def clamp (millis : Int) : Int := max earliest (min latest millis)

/-- The instant, if shifting knows it. -/
def within? (millis : Int) : Option Instant :=
  if earliest ≤ millis ∧ millis ≤ latest then some (ofMillis millis) else none

/-! ## Amounts -/

/-- The most months that an instant is moved by, either way: they are counted in 32 bits. -/
def maxMonths : Nat := 0xFFFFFFFF

/-- The most milliseconds that an instant is moved by, either way. -/
def maxMillis : Nat := 0x7FFFFFFFFFFFFFFF

/-- A count a number of times, if that is no more than allowed, either way. -/
def times? (most : Nat) (count amount : Int) : Option Int :=
  if (count * amount).natAbs ≤ most then some (count * amount) else none

/-! ## Shifting -/

/-- The same time of day, some months away. -/
def addMonths (millis months : Int) : Int :=
  let date := Date.ofDayNumber (millis / millisPerDay)
  (date.addMonths months).dayNumber * millisPerDay + millis % millisPerDay

/-- The instant `amount` units later, or earlier if the amount is negative. -/
def shift? (t : Instant) (unit : TimeUnit) (amount : Int) : Option Instant :=
  let start := clamp t.toInt
  match unit.length with
  | .months count => do within? (addMonths start (← times? maxMonths count amount))
  | .millis count => do within? (start + (← times? maxMillis count amount))

/-- The instant a number of calendar months earlier. -/
def monthsBefore? (t : Instant) (months : Nat) : Option Instant := shift? t .month (-(months : Int))

end Docstore.Instant

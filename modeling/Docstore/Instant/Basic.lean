import Docstore.Calendar
import Docstore.Text.Numeral

/-!
# `Docstore.Instant.Basic` — points in time

An `Instant` is a signed 64-bit count of milliseconds since the start of 1970 in universal time.

## Contents
- **Clock.** `Clock` is a date with a time of day; `clockOf` finds it for a count of milliseconds.
- **Text.** `plainText` shows an instant in messages, `isoText` in JSON. Both know the years from
  −9999 to 9999 only. For any other year `plainText` shows the milliseconds and `isoText` the nearest
  instant that it knows.
-/

namespace Docstore

open Calendar

/-- A point in time, in milliseconds since the start of 1970. -/
structure Instant where
  millis : Int64
deriving DecidableEq, Hashable, Inhabited, Repr

namespace Instant

/-- The instant a number of milliseconds after the start of 1970. -/
def ofMillis (n : Int) : Instant := ⟨Int64.ofInt n⟩

/-- The milliseconds since the start of 1970, as an integer. -/
def toInt (t : Instant) : Int := t.millis.toInt

/-! ## Clock -/

/-- The milliseconds of a day. -/
def millisPerDay : Int := 86400000

/-- A date and a time of day, down to the nanosecond. -/
structure Clock where
  date : Date
  hour : Nat
  minute : Nat
  second : Nat
  nanosecond : Nat
deriving Repr

/-- What the calendar and the clock show a number of milliseconds after the start of 1970. -/
def clockOf (millis : Int) : Clock :=
  let ofDay := (millis % millisPerDay).toNat
  { date := Date.ofDayNumber (millis / millisPerDay)
    hour := ofDay / 3600000
    minute := ofDay / 60000 % 60
    second := ofDay / 1000 % 60
    nanosecond := ofDay % 1000 * 1000000 }

/-- The first and the last moment that is shown as a date. -/
def firstShown : Clock :=
  { date := ⟨-9999, 1, 1⟩, hour := 0, minute := 0, second := 0, nanosecond := 0 }

@[inherit_doc firstShown]
def lastShown : Clock :=
  { date := ⟨9999, 12, 31⟩, hour := 23, minute := 59, second := 59, nanosecond := 999999999 }

/-- The clock of an instant, if its year has no more than four digits. -/
def clock? (t : Instant) : Option Clock :=
  let clock := clockOf t.toInt
  if clock.date.year.natAbs ≤ 9999 then some clock else none

/-- The clock of an instant, or the nearest one whose year has no more than four digits. -/
def nearestClock (t : Instant) : Clock :=
  t.clock?.getD (if t.toInt < 0 then firstShown else lastShown)

/-! ## Text -/

/-- The digits of a fraction of a second, without trailing zeros. -/
def fractionDigits (nanosecond : Nat) : List Char :=
  Text.dropTrailing '0' (Text.paddedNat 9 nanosecond).toList

/-- A year in at least four digits, with a sign if it is negative. -/
def yearText (year : Int) : String :=
  (if year < 0 then "-" else "") ++ Text.paddedNat 4 year.natAbs

/-- A clock in messages: the hour without a leading zero, at least one digit of fraction. -/
def Clock.plainText (clock : Clock) : String :=
  let fraction := match fractionDigits clock.nanosecond with
    | [] => ['0']
    | digits => digits
  yearText clock.date.year ++ "-" ++ Text.paddedNat 2 clock.date.month ++ "-" ++
    Text.paddedNat 2 clock.date.day ++ " " ++ toString clock.hour ++ ":" ++
    Text.paddedNat 2 clock.minute ++ ":" ++ Text.paddedNat 2 clock.second ++ "." ++
    String.ofList fraction ++ " +00:00:00"

/-- An instant in messages: its clock, or its milliseconds if the clock has no such year. -/
def plainText (t : Instant) : String :=
  match t.clock? with
  | some clock => clock.plainText
  | none => toString t.toInt

/-- An instant in JSON: the fraction only if there is one. -/
def isoText (t : Instant) : String :=
  let clock := t.nearestClock
  let fraction := match fractionDigits clock.nanosecond with
    | [] => []
    | digits => '.' :: digits
  yearText clock.date.year ++ "-" ++ Text.paddedNat 2 clock.date.month ++ "-" ++
    Text.paddedNat 2 clock.date.day ++ "T" ++ Text.paddedNat 2 clock.hour ++ ":" ++
    Text.paddedNat 2 clock.minute ++ ":" ++ Text.paddedNat 2 clock.second ++
    String.ofList fraction ++ "Z"

end Instant
end Docstore

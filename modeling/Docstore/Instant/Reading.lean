import Docstore.Instant.Basic

/-!
# `Docstore.Instant.Reading` — instants from Internet timestamps

A timestamp is a date, a separator, a time of day with an optional fraction of a second, and `Z` or an
offset from universal time. The library reads two dialects of it: `reference`, for the instant that a
query calls now, and `stored`, for dates inside documents. They differ in the separators and signs
they admit, in leap seconds, and in how a fraction finer than a millisecond is cut.
-/

namespace Docstore.Instant

open Calendar

/-! ## Dialects -/

/-- The decisions of a dialect of timestamps. -/
structure Dialect where
  /-- Which characters may stand between date and time? -/
  separator : Char → Bool
  /-- Is the typographic minus sign admitted in an offset? -/
  minusSign : Bool
  /-- Is second 60 the start of the next minute, whatever the minute? Otherwise it is the last
  moment before, and only at the end of a month. -/
  anyLeapSecond : Bool
  /-- Cuts nanoseconds since 1970 to milliseconds. -/
  cut : Int → Int

/-- The dialect of the instant that a query calls now; a fine fraction is cut toward the past. -/
def reference : Dialect :=
  { separator := fun c => c == 'T' || c == 't' || c == ' '
    minusSign := true
    anyLeapSecond := true
    cut := fun nanos => Int.fdiv nanos 1000000 }

/-- The dialect of dates in documents; a fine fraction is cut toward the start of 1970. -/
def stored : Dialect :=
  { separator := fun c => c.toNat < 128
    minusSign := false
    anyLeapSecond := false
    cut := fun nanos => Int.tdiv nanos 1000000 }

/-! ## Pieces -/

/-- Reads exactly `count` digits. -/
def takeDigits? : Nat → Nat → List Char → Option (Nat × List Char)
  | 0, acc, cs => some (acc, cs)
  | _ + 1, _, [] => none
  | count + 1, acc, c :: cs =>
    match Text.digit? c with
    | some d => takeDigits? count (10 * acc + d) cs
    | none => none

/-- Skips one given character. -/
def skip? (expected : Char) : List Char → Option (List Char)
  | [] => none
  | c :: cs => if c = expected then some cs else none

/-- An optional fraction of a second in nanoseconds; digits after the ninth do not count. -/
def fraction? (cs : List Char) : Option (Nat × List Char) :=
  match cs with
  | '.' :: rest =>
    let digits := rest.takeWhile fun c => (Text.digit? c).isSome
    if digits.isEmpty then none
    else
      match Text.natural? ((digits ++ List.replicate 9 '0').take 9) with
      | some nanos => some (nanos, rest.drop digits.length)
      | none => none
  | _ => some (0, cs)

/-- The sign of an offset: does it lie west of universal time? -/
def offsetSign? (dialect : Dialect) : List Char → Option (Bool × List Char)
  | '+' :: rest => some (false, rest)
  | '-' :: rest => some (true, rest)
  | '−' :: rest => if dialect.minusSign then some (true, rest) else none
  | _ => none

/-- The offset that ends a timestamp, in minutes east of universal time. -/
def offset? (dialect : Dialect) (cs : List Char) : Option Int :=
  match cs with
  | ['Z'] | ['z'] => some 0
  | _ => do
    let (west, cs) ← offsetSign? dialect cs
    let (hours, cs) ← takeDigits? 2 0 cs
    let cs ← skip? ':' cs
    let (minutes, cs) ← takeDigits? 2 0 cs
    if cs.isEmpty && hours ≤ 23 && minutes ≤ 59 then
      let total : Int := hours * 60 + minutes
      some (if west then -total else total)
    else none

/-! ## Timestamps -/

/-- Nanoseconds from the start of 1970 to a local clock at an offset. -/
def nanosOf (clock : Clock) (offset : Int) : Int :=
  let seconds := clock.date.dayNumber * 86400 + clock.hour * 3600 + clock.minute * 60 + clock.second
  (seconds - offset * 60) * 1000000000 + clock.nanosecond

/-- Is this count of nanoseconds the last one of a month? -/
def endsMonth (nanos : Int) : Bool :=
  let next := clockOf ((nanos + 1) / 1000000)
  (nanos + 1) % (86400 * 1000000000) == 0 && next.date.day == 1

/-- The milliseconds that a local clock at an offset stands for. -/
def settle? (dialect : Dialect) (clock : Clock) (offset : Int) : Option Int :=
  if !clock.date.isValid || 23 < clock.hour || 59 < clock.minute || 60 < clock.second then none
  else if clock.second = 60 && !dialect.anyLeapSecond then
    let last := nanosOf { clock with second := 59, nanosecond := 999999999 } offset
    if endsMonth last then some (dialect.cut last) else none
  else some (dialect.cut (nanosOf clock offset))

/-- Reads a timestamp in a dialect; the whole text has to be one. -/
def read? (dialect : Dialect) (s : String) : Option Instant := do
  let (year, cs) ← takeDigits? 4 0 s.toList
  let cs ← skip? '-' cs
  let (month, cs) ← takeDigits? 2 0 cs
  let cs ← skip? '-' cs
  let (day, cs) ← takeDigits? 2 0 cs
  let cs ← match cs with
    | c :: rest => if dialect.separator c then some rest else none
    | [] => none
  let (hour, cs) ← takeDigits? 2 0 cs
  let cs ← skip? ':' cs
  let (minute, cs) ← takeDigits? 2 0 cs
  let cs ← skip? ':' cs
  let (second, cs) ← takeDigits? 2 0 cs
  let (nanosecond, cs) ← fraction? cs
  let offset ← offset? dialect cs
  let clock : Clock := { date := ⟨year, month, day⟩, hour, minute, second, nanosecond }
  return ofMillis (← settle? dialect clock offset)

end Docstore.Instant

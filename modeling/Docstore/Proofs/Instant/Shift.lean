import Docstore.Instant.Shift
import Docstore.Proofs.Calendar

/-!
# `Docstore.Proofs.Instant.Shift` — where a shifted instant falls

A number of milliseconds falls on a date, some time into the day (`FallsOn`); each falls on one date only, the
one that its clock shows. Shifting is about these. Two things can keep an instant from being shifted: an amount
that is larger than any that is moved by, or a result outside the years that shifting knows. The first never
happens alone, as those years are fewer than the largest amount (`bind_times?`). So shifting is exact
arithmetic on the nearest known moment, and none outside of what is known (`shift?_of_millis`,
`shift?_of_months`).

Units of fixed length add milliseconds. From a known instant the result is exact or none. An instant that is
not known is moved to one that is before it is shifted, so a result is never the one asked for.

Calendar units count months. The result falls in the month that is so many months away, on the same day or on
the last one of the month, as far into the day as before.

## Contents
- **Dates.** `FallsOn`, `fallsOn_iff`.
- **Known moments.** `Known`, `known_iff_year`; `within?_eq_some_iff`, `clamp_of_known`.
- **Amounts.** `bind_times?`, `shift?_of_millis`, `shift?_of_months`.
- **Fixed lengths.** `ExactOrNone`; `shift?_fixed_exact_iff`, and an instant that is not known.
- **Months.** `shift?_months_exact`.
-/

namespace Docstore.Instant

open Calendar

variable {t s : Instant} {unit : TimeUnit} {date : Date} {ofDay millis count amount : Int}

/-! ## Dates -/

/-- A number of milliseconds falls on a date, and is so many milliseconds into its day. -/
structure FallsOn (millis : Int) (date : Date) (ofDay : Int) : Prop where
  valid : date.isValid = true
  nonneg : 0 ≤ ofDay
  lt : ofDay < millisPerDay
  eq : millis = date.dayNumber * millisPerDay + ofDay

namespace FallsOn

theorem day (h : FallsOn millis date ofDay) : millis / millisPerDay = date.dayNumber := by
  obtain ⟨-, hnonneg, hlt, rfl⟩ := h
  unfold millisPerDay at *
  omega

theorem rest (h : FallsOn millis date ofDay) : millis % millisPerDay = ofDay := by
  obtain ⟨-, hnonneg, hlt, rfl⟩ := h
  unfold millisPerDay at *
  omega

end FallsOn

/-- **A moment falls on the date of its clock,** and on no other. -/
theorem fallsOn_iff : FallsOn millis date ofDay ↔
    (clockOf millis).date = date ∧ millis % millisPerDay = ofDay := by
  constructor
  · intro h
    refine ⟨?_, h.rest⟩
    show Date.ofDayNumber (millis / millisPerDay) = date
    rw [h.day, ofDayNumber_dayNumber h.valid]
  · rintro ⟨rfl, rfl⟩
    refine ⟨isValid_ofDayNumber _, Int.emod_nonneg _ (by decide), Int.emod_lt_of_pos _ (by decide), ?_⟩
    show millis = (Date.ofDayNumber (millis / millisPerDay)).dayNumber * millisPerDay + _
    rw [dayNumber_ofDayNumber]
    exact (Int.ediv_mul_add_emod _ _).symm

theorem exists_fallsOn (millis : Int) : ∃ date ofDay, FallsOn millis date ofDay :=
  ⟨_, _, fallsOn_iff.mpr ⟨rfl, rfl⟩⟩

/-! ## Known moments -/

/-- A number of milliseconds in the years that shifting knows. -/
def Known (millis : Int) : Prop := earliest ≤ millis ∧ millis ≤ latest

instance : DecidablePred Known := fun millis => inferInstanceAs (Decidable (earliest ≤ millis ∧ _))

theorem earliest_eq : earliest = -8334601228800000 := by decide

theorem latest_eq : latest = 8210266876799999 := by decide

theorem known_iff : Known millis ↔ -8334601228800000 ≤ millis ∧ millis ≤ 8210266876799999 := by
  rw [Known, earliest_eq, latest_eq]

/-- **Whether a moment is known** depends on the year that it falls in. -/
theorem known_iff_year (h : FallsOn millis date ofDay) :
    Known millis ↔ firstYear ≤ date.year ∧ date.year ≤ lastYear := by
  obtain ⟨hvalid, hnonneg, hlt, rfl⟩ := h
  -- what is known begins and ends with the first day of a year
  have hfirst : ∀ year, (Date.mk year 1 1).dayNumber = yearZero + daysBeforeYear year := by
    intro year
    show yearZero + daysBeforeYear year + 0 + 0 = _
    rw [Int.add_zero, Int.add_zero]
  have hyear : ∀ year, yearZero + daysBeforeYear year ≤ date.dayNumber ↔ year ≤ date.year := by
    intro year
    obtain ⟨hlow, hhigh⟩ := dayNumber_mem_year hvalid
    constructor
    · intro hle
      have hbefore : year < date.year + 1 := daysBeforeYear_strictMono.lt_iff_lt.mp (by omega)
      omega
    · intro hle
      have hmono := daysBeforeYear_strictMono.monotone hle
      omega
  have hknown := hyear firstYear
  have hunknown := hyear (lastYear + 1)
  unfold Known earliest latest
  rw [hfirst, hfirst]
  unfold millisPerDay at *
  omega

/-- A number of milliseconds is an instant exactly if it is known. -/
theorem within?_eq_some_iff : within? millis = some s ↔ Known millis ∧ s.toInt = millis := by
  show (if Known millis then some (ofMillis millis) else none) = some s ↔ _
  by_cases hknown : Known millis
  · have hint : (ofMillis millis).toInt = millis := by
      rw [known_iff] at hknown
      exact Int64.toInt_ofInt_of_le (by omega) (by omega)
    rw [if_pos hknown, Option.some.injEq]
    constructor
    · rintro rfl
      exact ⟨hknown, hint⟩
    · rintro ⟨-, hs⟩
      have hmillis : (ofMillis millis).millis = s.millis := Int64.toInt_inj.mp (hint.trans hs.symm)
      cases s
      exact congrArg Instant.mk hmillis
  · rw [if_neg hknown]
    constructor
    · exact nofun
    · intro h
      exact absurd h.1 hknown

theorem within?_eq_none_iff : within? millis = none ↔ ¬Known millis := by
  unfold within? Known
  split_ifs with h
  · simp [h]
  · simp [h]

theorem known_clamp (millis : Int) : Known (clamp millis) := by
  unfold clamp
  rw [known_iff, earliest_eq, latest_eq]
  omega

/-- Clamping changes nothing that is known. -/
theorem clamp_of_known (h : Known millis) : clamp millis = millis := by
  obtain ⟨hlow, hhigh⟩ := h
  unfold clamp
  omega

/-! ## Amounts -/

/-- **A bound on amounts does not count** where no amount beyond it has a result anyway. -/
theorem bind_times? {most : Nat} {f : Int → Option Instant}
    (h : most < (count * amount).natAbs → f (count * amount) = none) :
    (times? most count amount).bind f = f (count * amount) := by
  unfold times?
  by_cases hle : (count * amount).natAbs ≤ most
  · rw [if_pos hle, Option.bind_some]
  · rw [if_neg hle, Option.bind_none]
    exact (h (Nat.not_le.mp hle)).symm

/-- **Units of fixed length add milliseconds.** -/
theorem shift?_of_millis (hunit : unit.length = .millis count) (t : Instant) (amount : Int) :
    t.shift? unit amount = within? (clamp t.toInt + count * amount) := by
  have hbound : maxMillis < (count * amount).natAbs →
      within? (clamp t.toInt + count * amount) = none := by
    intro hmost
    have hstart := known_clamp t.toInt
    rw [within?_eq_none_iff]
    rw [known_iff] at *
    unfold maxMillis at hmost
    omega
  unfold shift?
  rw [hunit]
  exact bind_times? hbound

/-- Some months away a moment falls on the date some months away, as far into the day. -/
theorem FallsOn.addMonths (h : FallsOn millis date ofDay) (months : Int) :
    FallsOn (addMonths millis months) (date.addMonths months) ofDay where
  valid := isValid_addMonths h.valid months
  nonneg := h.nonneg
  lt := h.lt
  eq := by
    unfold Instant.addMonths
    rw [h.day, h.rest, ofDayNumber_dayNumber h.valid]

/-- Months are known from the first one of the first year to the last one of the last year. -/
theorem known_addMonths_iff (h : FallsOn millis date ofDay) (months : Int) :
    Known (addMonths millis months) ↔
      12 * firstYear ≤ date.monthIndex + months ∧ date.monthIndex + months < 12 * (lastYear + 1) := by
  have hlater := h.addMonths months
  rw [known_iff_year hlater, ← monthIndex_div hlater.valid, monthIndex_addMonths]
  omega

/-- **Calendar units count months.** -/
theorem shift?_of_months (hunit : unit.length = .months count) (t : Instant) (amount : Int) :
    t.shift? unit amount = within? (addMonths (clamp t.toInt) (count * amount)) := by
  have hbound : maxMonths < (count * amount).natAbs →
      within? (addMonths (clamp t.toInt) (count * amount)) = none := by
    intro hmost
    obtain ⟨date, ofDay, hstart⟩ := exists_fallsOn (clamp t.toInt)
    -- the month that is left is known, and so many months from it no month is
    have hmonth := monthIndex_div hstart.valid
    have hyear := (known_iff_year hstart).mp (known_clamp t.toInt)
    rw [within?_eq_none_iff, known_addMonths_iff hstart]
    unfold maxMonths at hmost
    unfold firstYear lastYear at *
    omega
  unfold shift?
  rw [hunit]
  exact bind_times? hbound

/-! ## Fixed lengths -/

/-- A shift by a count of milliseconds, so many times, gives what is exactly that much later if it gives
anything, and it gives nothing where the instant or the result is not known. -/
def ExactOrNone (t : Instant) (unit : TimeUnit) (count amount : Int) : Prop :=
  (∀ s, t.shift? unit amount = some s → s.toInt = t.toInt + count * amount) ∧
  (¬(Known t.toInt ∧ Known (t.toInt + count * amount)) → t.shift? unit amount = none)

/-- **Shifts of fixed length.** A shift of an instant by a unit of fixed length is exact or none exactly if
the instant is known, or if the shift of the nearest known moment is refused. A known instant is refused
nothing but results that are not known. -/
theorem shift?_fixed_exact_iff (hunit : unit.length = .millis count) (t : Instant) (amount : Int) :
    (ExactOrNone t unit count amount ↔ Known t.toInt ∨ ¬Known (clamp t.toInt + count * amount)) ∧
    (Known t.toInt → ∀ s, t.shift? unit amount = some s ↔
      Known s.toInt ∧ s.toInt = t.toInt + count * amount) := by
  have hshift := shift?_of_millis hunit t amount
  constructor
  · constructor
    · rintro ⟨-, hrefused⟩
      -- an instant that is not known may only be refused
      by_cases hknown : Known t.toInt
      · exact .inl hknown
      · have hnone := hrefused fun h => hknown h.1
        rw [hshift, within?_eq_none_iff] at hnone
        exact .inr hnone
    · rintro (hknown | hrefused)
      · -- the nearest known moment is the instant itself
        rw [clamp_of_known hknown] at hshift
        constructor
        · intro s hs
          rw [hshift] at hs
          exact (within?_eq_some_iff.mp hs).2
        · intro hunknown
          rw [hshift, within?_eq_none_iff]
          exact fun hresult => hunknown ⟨hknown, hresult⟩
      · have hnone : t.shift? unit amount = none := by rw [hshift, within?_eq_none_iff.mpr hrefused]
        constructor
        · intro s hs
          exact nomatch hnone.symm.trans hs
        · exact fun _ => hnone
  · intro hknown s
    rw [hshift, clamp_of_known hknown, within?_eq_some_iff]
    constructor
    · rintro ⟨hresult, hs⟩
      exact ⟨hs ▸ hresult, hs⟩
    · rintro ⟨hs, heq⟩
      exact ⟨heq ▸ hs, heq⟩

/-- The last known moment can be shifted back, but not on. -/
theorem shift?_fixed_exact_iff_latest :
    let t := ofMillis latest
    ExactOrNone t .week 604800000 (-1) ∧ t.shift? .week (-1) = some (ofMillis 8210266271999999) ∧
    ExactOrNone t .millisecond 1 1 ∧ t.shift? .millisecond 1 = none := by
  intro t
  have hweeks : TimeUnit.week.length = .millis 604800000 := rfl
  have hmilliseconds : TimeUnit.millisecond.length = .millis 1 := rfl
  have hknown : Known t.toInt := by decide
  obtain ⟨hweek, hback⟩ := shift?_fixed_exact_iff hweeks t (-1)
  obtain ⟨hmillisecond, -⟩ := shift?_fixed_exact_iff hmilliseconds t 1
  refine ⟨hweek.mpr (.inl hknown), (hback hknown _).mpr (by decide), hmillisecond.mpr (.inl hknown), ?_⟩
  exact (hmillisecond.mpr (.inl hknown)).2 (by decide)

/-- The last instant of all is not known. A day earlier than it is said to be a day before the last known
moment, more than 290 million years away. -/
theorem unknown_instant_shifted :
    let t : Instant := ⟨Int64.maxValue⟩
    TimeUnit.day.length = .millis 86400000 ∧ ¬Known t.toInt ∧
    t.shift? .day (-1) = some (ofMillis 8210266790399999) ∧ ¬ExactOrNone t .day 86400000 (-1) := by
  intro t
  have hshift : t.shift? .day (-1) = some (ofMillis 8210266790399999) := by decide
  refine ⟨rfl, by decide, hshift, ?_⟩
  rintro ⟨hexact, -⟩
  exact absurd (hexact _ hshift) (by decide)

/-! ## Months -/

/-- **Shifts by months.** Let an instant fall on a date in the years that shifting knows. Then a shift by a
unit of some months, any number of times, is none exactly if the month that is so many months away lies
outside these years. Otherwise the result falls in this month, on the same day of the month or on the last
one if the month is too short, at the same time of day. -/
theorem shift?_months_exact (hunit : unit.length = .months count) (h : FallsOn t.toInt date ofDay)
    (hyear : firstYear ≤ date.year ∧ date.year ≤ lastYear) (amount : Int) :
    (t.shift? unit amount = none ↔
      ¬(12 * firstYear ≤ date.monthIndex + count * amount ∧
        date.monthIndex + count * amount < 12 * (lastYear + 1))) ∧
    ∀ s, t.shift? unit amount = some s → ∃ later : Date, FallsOn s.toInt later ofDay ∧
      later.monthIndex = date.monthIndex + count * amount ∧
      later.day = min date.day (daysInMonth later.year later.month) := by
  have hshift := shift?_of_months hunit t amount
  rw [clamp_of_known ((known_iff_year h).mpr hyear)] at hshift
  rw [hshift]
  constructor
  · rw [within?_eq_none_iff, known_addMonths_iff h]
  · intro s hs
    obtain ⟨-, hmillis⟩ := within?_eq_some_iff.mp hs
    refine ⟨date.addMonths (count * amount), ?_, monthIndex_addMonths date _, rfl⟩
    rw [hmillis]
    exact h.addMonths (count * amount)

/-- One quarter after the last day of November 2023 is the leap day of the year after, at the same time. The
most years that an amount can say are refused, either way. -/
theorem shift?_months_exact_leap_day :
    let t := ofMillis 1701345600000
    FallsOn t.toInt ⟨2023, 11, 30⟩ 43200000 ∧
    (∃ s, t.shift? .quarter 1 = some s ∧ FallsOn s.toInt ⟨2024, 2, 29⟩ 43200000) ∧
    t.shift? .year Int64.maxValue.toInt = none ∧ t.shift? .month Int64.minValue.toInt = none := by
  intro t
  have hstart : FallsOn t.toInt ⟨2023, 11, 30⟩ 43200000 := fallsOn_iff.mpr (by decide)
  have hshift : t.shift? .quarter 1 = some (ofMillis 1709208000000) := by decide
  have hquarters : TimeUnit.quarter.length = .months 3 := rfl
  have hyears : TimeUnit.year.length = .months 12 := rfl
  have hmonths : TimeUnit.month.length = .months 1 := rfl
  obtain ⟨-, hquarter⟩ := shift?_months_exact hquarters hstart (by decide) 1
  obtain ⟨hyear, -⟩ := shift?_months_exact hyears hstart (by decide) Int64.maxValue.toInt
  obtain ⟨hmonth, -⟩ := shift?_months_exact hmonths hstart (by decide) Int64.minValue.toInt
  obtain ⟨later, hlater, -, -⟩ := hquarter _ hshift
  have hdate : later = ⟨2024, 2, 29⟩ := (fallsOn_iff.mp hlater).1.symm.trans (by decide)
  exact ⟨hstart, ⟨_, hshift, hdate ▸ hlater⟩, hyear.mpr (by decide), hmonth.mpr (by decide)⟩

end Docstore.Instant

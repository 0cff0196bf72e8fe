/-!
# `Docstore.Double.Basic` — 64-bit binary floating-point numbers

A `Double` is its bit pattern: one sign bit, eleven bits of exponent, fifty-two of fraction. All that
the library does with one is exact arithmetic on natural numbers and integers.

## Contents
- **Parts of a pattern.** `magnitude` is the pattern without its sign; `units` counts a finite number
  in steps of `2⁻¹⁰⁷⁴`, the smallest one, so every finite number is a whole count of units.
- **Special numbers.** Zeros, infinities and the quiet not-a-number.
- **Total order.** `orderKey` sends patterns to integers so that order of the keys is total order of
  the numbers: negative not-a-number, −∞, …, −0, +0, …, +∞, positive not-a-number.
- **Whole numbers.** `isWhole`, `truncate`, `toInt64`.
-/

namespace Docstore

/-- A 64-bit binary floating-point number, held as its bit pattern. -/
structure Double where
  bits : UInt64
deriving DecidableEq, Hashable, Inhabited, Repr

namespace Double

/-! ## Parts of a pattern -/

/-- The pattern of the sign bit alone. -/
def signBit : Nat := 0x8000000000000000

/-- The number of patterns that share an exponent. -/
def fractions : Nat := 0x10000000000000

/-- The magnitude of the infinities; a larger one is no number. -/
def infiniteMagnitude : Nat := 0x7FF0000000000000

/-- The pattern without its sign. -/
def magnitude (x : Double) : Nat := x.bits.toNat % signBit

/-- Is the sign bit set? -/
def isNegative (x : Double) : Bool := signBit ≤ x.bits.toNat

/-- The number with a given sign and magnitude. -/
def ofMagnitude (negative : Bool) (magnitude : Nat) : Double :=
  ⟨UInt64.ofNat (if negative then signBit + magnitude else magnitude)⟩

/-- Is this no number at all? -/
def isNaN (x : Double) : Bool := infiniteMagnitude < x.magnitude

/-- Is this neither an infinity nor not-a-number? -/
def isFinite (x : Double) : Bool := x.magnitude < infiniteMagnitude

/-- Is this one of the two zeros? -/
def isZero (x : Double) : Bool := x.magnitude == 0

/-- The absolute value of a finite number, in units of `2⁻¹⁰⁷⁴`. -/
def units (x : Double) : Nat :=
  let exponent := x.magnitude / fractions
  let fraction := x.magnitude % fractions
  if exponent = 0 then fraction else (fractions + fraction) * Nat.pow 2 (exponent - 1)

/-- How many units make one. -/
def unitsPerOne : Nat := Nat.pow 2 1074

/-- The signed count of units of a finite number. -/
def signedUnits (x : Double) : Int := if x.isNegative then -(x.units : Int) else x.units

/-! ## Special numbers -/

/-- Zero of either sign. -/
def zero (negative : Bool) : Double := ofMagnitude negative 0

/-- Infinity of either sign. -/
def infinity (negative : Bool) : Double := ofMagnitude negative infiniteMagnitude

/-- The quiet not-a-number that reading a text gives. -/
def nan : Double := ⟨0x7FF8000000000000⟩

/-- The quiet not-a-number that an invalid operation gives. -/
def invalid : Double := ⟨0xFFF8000000000000⟩

/-- The same number with the other sign. -/
def negate (x : Double) : Double := ofMagnitude (!x.isNegative) x.magnitude

/-- A not-a-number with its quiet bit set. -/
def quiet (x : Double) : Double := ⟨x.bits ||| 0x0008000000000000⟩

/-! ## Total order -/

/-- The place of a pattern in the total order: negative patterns run backwards below zero. -/
def orderKey (x : Double) : Int :=
  if x.isNegative then -(x.magnitude : Int) - 1 else x.magnitude

/-- Total order of all patterns. -/
def totalCompare (x y : Double) : Ordering := compare x.orderKey y.orderKey

/-! ## Whole numbers -/

/-- Is this a finite number without a fractional part? -/
def isWhole (x : Double) : Bool := x.isFinite && x.units % unitsPerOne == 0

/-- The number cut toward zero. An infinity is cut as if it were `2¹⁰²⁴`. -/
def truncate (x : Double) : Int :=
  let whole : Int := (x.units / unitsPerOne : Nat)
  if x.isNegative then -whole else whole

/-- The smallest and the largest 64-bit integer. -/
def int64Low : Int := -0x8000000000000000

@[inherit_doc int64Low]
def int64High : Int := 0x7FFFFFFFFFFFFFFF

/-- The number cut toward zero and held within 64-bit integers; not-a-number counts as zero. -/
def toInt64 (x : Double) : Int64 :=
  if x.isNaN then 0 else Int64.ofInt (max int64Low (min int64High x.truncate))

end Double
end Docstore

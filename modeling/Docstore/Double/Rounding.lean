import Docstore.Double.Basic

/-!
# `Docstore.Double.Rounding` — rounding an exact quotient to the nearest double

Every operation here computes its exact result as a quotient of natural numbers and rounds it once,
to the nearest double, a tie going to the even one. `roundUnits` is that rounding; the rest hands it
the right quotient.

## Contents
- **Rounding.** `roundUnits` and `ofRatio`.
- **Whole numbers.** `ofInt`.
- **Arithmetic.** `add` for all doubles; `product` and `quotient` for finite ones.
-/

namespace Docstore.Double

/-! ## Rounding -/

/-- The magnitude of the double nearest to `num / den` units. A quotient of more than fifty-three
binary digits is cut to fifty-three; the digits cut off decide the rounding. Past the largest finite
number lies infinity. -/
def roundUnits (num den : Nat) : Nat :=
  let shift := (num / den).log2 - 52
  let step := den * Nat.pow 2 shift
  let cut := num / step
  let rest := num % step
  let up := step < 2 * rest || (step == 2 * rest && cut % 2 == 1)
  min (shift * fractions + (if up then cut + 1 else cut)) infiniteMagnitude

/-- The double nearest to `num / den`, with a sign of its own. -/
def ofRatio (negative : Bool) (num den : Nat) : Double :=
  ofMagnitude negative (roundUnits (num * unitsPerOne) den)

/-! ## Whole numbers -/

/-- The double nearest to an integer. -/
def ofInt (n : Int) : Double := ofRatio (n < 0) n.natAbs 1

/-! ## Arithmetic -/

/-- The sum of two finite numbers. A sum of zero is positive unless both terms are negative. -/
def addFinite (x y : Double) : Double :=
  let total := x.signedUnits + y.signedUnits
  if total = 0 then zero (x.isNegative && y.isNegative)
  else ofMagnitude (total < 0) (roundUnits total.natAbs 1)

/-- Addition. Not-a-number stays, the first operand's before the second's; opposite infinities have
no sum. -/
def add (x y : Double) : Double :=
  if x.isNaN then x.quiet
  else if y.isNaN then y.quiet
  else if x.isFinite then (if y.isFinite then addFinite x y else y)
  else if y.isFinite then x
  else if x = y then x
  else invalid

instance : Add Double := ⟨add⟩

/-- The product of two finite numbers. -/
def product (x y : Double) : Double :=
  ofMagnitude (x.isNegative != y.isNegative) (roundUnits (x.units * y.units) unitsPerOne)

/-- The quotient of two finite numbers, the second not zero. -/
def quotient (x y : Double) : Double :=
  ofRatio (x.isNegative != y.isNegative) x.units y.units

end Docstore.Double

import Docstore.Double.Rounding
import Docstore.Text.Numeral

/-!
# `Docstore.Double.Reading` — doubles from decimal text

`ofDecimal` rounds `digits · 10^exponent` correctly. `read?` takes a text apart: an optional sign,
then `inf`, `infinity` or `nan` in any case, or digits with an optional point and exponent. At least
one digit stands before or after the point.
-/

namespace Docstore.Double

/-! ## Scaled integers -/

/-- The double nearest to `coefficient · 10^exponent`. Exponents far outside the range of doubles
are settled before any power is computed. -/
def ofDecimal (negative : Bool) (coefficient : Nat) (exponent : Int) : Double :=
  if coefficient = 0 then zero negative
  else
    let digits : Int := (toString coefficient).length
    if 310 < digits + exponent then infinity negative
    else if digits + exponent < -330 then zero negative
    else if 0 ≤ exponent then ofRatio negative (coefficient * Nat.pow 10 exponent.toNat) 1
    else ofRatio negative coefficient (Nat.pow 10 (-exponent).toNat)

/-! ## Text -/

/-- The digits on either side of an optional point, with the number of digits after it. -/
def readPoint? (cs : List Char) : Option (List Char × Nat) :=
  let whole := cs.takeWhile (· != '.')
  let after := (cs.drop (whole.length + 1))
  if whole.length < cs.length then
    if whole.isEmpty && after.isEmpty then none else some (whole ++ after, after.length)
  else if cs.isEmpty then none else some (cs, 0)

/-- A number in decimal notation, its sign already read. -/
def readNumeral? (negative : Bool) (cs : List Char) : Option Double := do
  let mantissa := cs.takeWhile (· != 'e')
  let (digits, places) ← readPoint? mantissa
  let coefficient ← Text.readDigits Text.digit? 10 0 digits
  let power ←
    if mantissa.length < cs.length then Text.integer? (cs.drop (mantissa.length + 1)) else some 0
  return ofDecimal negative coefficient (power - places)

/-- A number or one of the special names, its sign already read. -/
def readUnsigned? (negative : Bool) (cs : List Char) : Option Double :=
  let name := cs.map Text.lowerChar
  if name = ['i', 'n', 'f'] || name = ['i', 'n', 'f', 'i', 'n', 'i', 't', 'y'] then
    some (infinity negative)
  else if name = ['n', 'a', 'n'] then some (if negative then nan.negate else nan)
  else readNumeral? negative name

/-- Reads a double; the whole text has to be one. -/
def read? : List Char → Option Double
  | '-' :: cs => readUnsigned? true cs
  | '+' :: cs => readUnsigned? false cs
  | cs => readUnsigned? false cs

end Docstore.Double

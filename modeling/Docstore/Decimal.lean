import Docstore.Double.Reading

/-!
# `Docstore.Decimal` — 128-bit decimal numbers

A finite decimal is a coefficient of at most 34 digits times a power of ten between `10⁻⁶¹⁷⁶` and
`10⁶¹¹¹`. Trailing zeros count: `1.5` and `1.50` are different decimals of one value.

## Contents
- **Reading.** `read?` never rounds: digits may be dropped only if they are zeros.
- **Writing.** `text` writes every digit of the coefficient.
- **Value.** `toDouble` is the double nearest to the decimal.
- **Pattern.** `bytes` is the decimal in the 16 bytes of its binary integer encoding.
-/

namespace Docstore

/-- A decimal number with its own count of trailing zeros. -/
inductive Decimal where
  | nan (negative signaling : Bool)
  | infinity (negative : Bool)
  | finite (negative : Bool) (coefficient : Nat) (exponent : Int)
deriving DecidableEq, Inhabited, Repr

namespace Decimal

/-- The most digits a coefficient has. -/
def maxDigits : Nat := 34

/-- The smallest exponent. -/
def minExponent : Int := -6176

/-- The largest exponent. -/
def maxExponent : Int := 6111

/-! ## Reading -/

/-- One more than the largest exponent that is read. -/
def exponentBound : Int := 0x80000000000000000000000000000000

/-- An exponent is read in 128 bits, and so is what becomes of it when the point moves. -/
def wideExponent? (e : Int) : Option Int :=
  if -exponentBound ≤ e ∧ e < exponentBound then some e else none

/-- The first `count` characters, if nothing but zeros follows them. -/
def cutZeros? (count : Nat) (digits : List Char) : Option (List Char) :=
  if (digits.drop count).all (· == '0') then some (digits.take count) else none

/-- Drops zeros beyond the precision and raises the exponent by as many. -/
def fitPrecision? (digits : List Char) (exponent : Int) : Option (List Char × Int) :=
  if maxDigits < digits.length then do
    let kept ← cutZeros? maxDigits digits
    let raised ← wideExponent? (exponent + (digits.length - maxDigits : Nat))
    return (kept, raised)
  else some (digits, exponent)

/-- Raises an exponent that is too small by dropping zeros; a zero takes the smallest exponent. -/
def raiseExponent? (digits : List Char) (exponent : Int) : Option (List Char × Int) :=
  if minExponent ≤ exponent then some (digits, exponent)
  else if digits = ['0'] then some (digits, minExponent)
  else
    let surplus := (minExponent - exponent).toNat
    if digits.length < surplus then none
    else (cutZeros? (digits.length - surplus) digits).map (·, minExponent)

/-- Lowers an exponent that is too large by appending zeros; a zero takes the largest exponent. -/
def lowerExponent? (digits : List Char) (exponent : Int) : Option (List Char × Int) :=
  if exponent ≤ maxExponent then some (digits, exponent)
  else if digits = ['0'] then some (digits, maxExponent)
  else
    let surplus := (exponent - maxExponent).toNat
    if maxDigits < digits.length + surplus then none
    else some (digits ++ List.replicate surplus '0', maxExponent)

/-- The value of the digits of a coefficient; no digits at all are zero. -/
def coefficient? (digits : List Char) : Option Nat :=
  if digits.isEmpty then some 0 else Text.unsigned? digits

/-- A finite decimal, sign and case already settled. -/
def readFinite? (negative : Bool) (cs : List Char) : Option Decimal := do
  let mantissa := cs.takeWhile (· != 'e')
  let power ←
    if mantissa.length < cs.length then
      (Text.integer? (cs.drop (mantissa.length + 1))).bind wideExponent?
    else some 0
  let whole := mantissa.takeWhile (· != '.')
  let places := mantissa.drop (whole.length + 1)
  let exponent ← wideExponent? (power - places.length)
  let digits := match (whole ++ places).dropWhile (· == '0') with
    | [] => ['0']
    | ds => ds
  let (digits, exponent) ← fitPrecision? digits exponent
  let (digits, exponent) ← raiseExponent? digits exponent
  let (digits, exponent) ← lowerExponent? digits exponent
  let coefficient ← coefficient? digits
  return .finite negative coefficient exponent

/-- A decimal after its sign. -/
def readUnsigned? (negative : Bool) (cs : List Char) : Option Decimal :=
  let name := String.ofList (cs.map Text.lowerChar)
  if name = "nan" then some (.nan negative false)
  else if name = "snan" then some (.nan negative true)
  else if name = "inf" || name = "infinity" then some (.infinity negative)
  else readFinite? negative name.toList

/-- Reads a decimal; the whole text has to be one. -/
def read? (s : String) : Option Decimal :=
  match s.toList with
  | '-' :: cs => readUnsigned? true cs
  | '+' :: cs => readUnsigned? false cs
  | cs => readUnsigned? false cs

/-! ## Writing -/

/-- The digits of a finite decimal: the point in place if no zero has to be appended and at most six
would come first, otherwise an exponent. -/
def textFinite (coefficient : Nat) (exponent : Int) : String :=
  let digits := (toString coefficient).toList
  let scientific := exponent + (digits.length : Int) - 1
  if exponent ≤ 0 ∧ -6 ≤ scientific then
    let places := (-exponent).toNat
    if places = 0 then String.ofList digits
    else if places < digits.length then
      String.ofList (digits.take (digits.length - places) ++ '.' ::
        digits.drop (digits.length - places))
    else String.ofList ('0' :: '.' :: List.replicate (places - digits.length) '0' ++ digits)
  else
    let mantissa := match digits with
      | first :: second :: rest => first :: '.' :: second :: rest
      | short => short
    String.ofList mantissa ++ "E" ++ (if 0 < scientific then "+" else "") ++ toString scientific

/-- The written form of a decimal, in which all not-a-numbers look the same. -/
def text : Decimal → String
  | .nan _ _ => "NaN"
  | .infinity negative => if negative then "-Infinity" else "Infinity"
  | .finite negative coefficient exponent =>
    (if negative then "-" else "") ++ textFinite coefficient exponent

/-! ## Value -/

/-- The double nearest to a decimal. -/
def toDouble : Decimal → Double
  | .nan _ _ => Double.nan
  | .infinity negative => Double.infinity negative
  | .finite negative coefficient exponent => Double.ofDecimal negative coefficient exponent

/-! ## Pattern -/

/-- The place of the highest byte in a pattern of 128 bits. -/
def highByte : Nat := Nat.pow 2 120

/-- The place of the exponent in a pattern of 128 bits; the coefficient stands below it. -/
def exponentPlace : Nat := Nat.pow 2 113

/-- The sign bit in the highest byte. -/
def signByte (negative : Bool) : Nat := if negative then 0x80 else 0

/-- The pattern of a decimal: sign bit, exponent counted from the smallest one, coefficient. The
special decimals have exponents that no number has. -/
def pattern : Decimal → Nat
  | .nan negative signaling => (signByte negative + if signaling then 0x7E else 0x7C) * highByte
  | .infinity negative => (signByte negative + 0x78) * highByte
  | .finite negative coefficient exponent =>
    signByte negative * highByte + (exponent - minExponent).toNat * exponentPlace + coefficient

/-- The lowest `count` bytes of a number, the lowest first. -/
def lowBytes : Nat → Nat → List UInt8
  | 0, _ => []
  | count + 1, n => UInt8.ofNat (n % 256) :: lowBytes count (n / 256)

/-- The 16 bytes of the pattern, the lowest first. -/
def bytes (d : Decimal) : List UInt8 := lowBytes 16 d.pattern

end Decimal
end Docstore

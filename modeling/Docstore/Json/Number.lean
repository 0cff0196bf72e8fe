import Docstore.Json.Basic
import Docstore.Double.Reading

/-!
# `Docstore.Json.Number` — numbers in JSON text

The digits of a number are gathered into a significand of 64 bits. Digits that no longer fit are not
gathered; before the point each of them raises the decimal exponent. A number without point, exponent
or surplus digits is an integer, except `-0` and negative numbers below 64-bit integers. Any other
number is the significand, rounded to a double, times or over the double of a power of ten; one that
is too large for a double is no number.
-/

namespace Docstore.Json

/-! ## Significands -/

/-- The largest significand. -/
def maxSignificand : Nat := 0xFFFFFFFFFFFFFFFF

/-- Gathers digits as long as the significand holds them; the digits left over come back too. -/
def gather (significand : Nat) : List Nat → Nat × List Nat
  | [] => (significand, [])
  | d :: rest =>
    if maxSignificand < significand * 10 + d then (significand, d :: rest)
    else gather (significand * 10 + d) rest

/-- The decimal digits at the front of a text, and what follows them. -/
def spanDigits : List Char → List Nat × List Char
  | [] => ([], [])
  | c :: rest =>
    match Text.digit? c with
    | some d =>
      let (digits, after) := spanDigits rest
      (d :: digits, after)
    | none => ([], c :: rest)

/-! ## Scaling -/

/-- The double nearest to a power of ten. -/
def powerOfTen (n : Nat) : Double := Double.ofRatio false (Nat.pow 10 n) 1

/-- A significand over a power of ten; a power beyond the range of doubles is taken in steps. -/
def scaleDown : Nat → Double → Nat → Double
  | 0, x, _ => x
  | fuel + 1, x, power =>
    if power ≤ 308 then x.quotient (powerOfTen power)
    else if x.isZero then x
    else scaleDown fuel (x.quotient (powerOfTen 308)) (power - 308)

/-- The double `significand · 10^exponent` stands for, or `none` if there is none so large. -/
def scale? (significand : Nat) (exponent : Int) : Option Double :=
  let x := Double.ofInt significand
  if exponent < 0 then some (scaleDown 4 x (-exponent).toNat)
  else if exponent ≤ 308 then
    let y := x.product (powerOfTen exponent.toNat)
    if y.isFinite then some y else none
  else if x.isZero then some x
  else none

/-- The number that a significand and a decimal exponent stand for. -/
def scaled? (negative : Bool) (significand : Nat) (exponent : Int) : Option Json :=
  (scale? significand exponent).map fun x => .double (if negative then x.negate else x)

/-! ## Parts of a number -/

/-- The exponent after its mark. -/
def exponent? (cs : List Char) : Option Int :=
  let (negative, digits) := match cs with
    | '-' :: rest => (true, rest)
    | '+' :: rest => (false, rest)
    | _ => (false, cs)
  (Text.natural? digits).map fun n => if negative then -(n : Int) else n

/-- The value of a number whose digits are gathered, from its exponent on. -/
def finish? (negative : Bool) (significand : Nat) (raised : Int) : List Char → Option Json
  | [] => scaled? negative significand raised
  | c :: rest =>
    if c = 'e' || c = 'E' then
      match exponent? rest with
      | some power => scaled? negative significand (raised + power)
      | none => none
    else none

/-- A number without point, exponent or surplus digits. -/
def whole (negative : Bool) (significand : Nat) : Json :=
  if negative then
    if significand = 0 || 0x8000000000000000 < significand then .double (Double.ofInt significand).negate
    else .int (-(significand : Int))
  else .int significand

/-- A number after its sign. -/
def unsignedNumber? (negative : Bool) (cs : List Char) : Option Json :=
  let (digits, after) := spanDigits cs
  if digits.isEmpty || (digits.head? == some 0 && 1 < digits.length) then none
  else
    let (significand, surplus) := gather 0 digits
    match after with
    | '.' :: rest =>
      let (places, after) := spanDigits rest
      if places.isEmpty then none
      else
        let (significand, unread) := gather significand places
        let raised : Int := surplus.length
        finish? negative significand (raised - (places.length - unread.length : Nat)) after
    | [] =>
      if surplus.isEmpty then some (whole negative significand)
      else scaled? negative significand surplus.length
    | _ => finish? negative significand surplus.length after

/-- The value of a number in JSON text. -/
def number? : List Char → Option Json
  | '-' :: cs => unsignedNumber? true cs
  | cs => unsignedNumber? false cs

end Docstore.Json

import Docstore.Double.Shortest
import Docstore.Text.Numeral

/-!
# `Docstore.Double.Notation` — how doubles are written

One function, `render`, writes shortest digits in a style: from which decimal exponents the point is
written in place, whether a whole number keeps `.0`, how an exponent looks, and which way a tie goes.
The three styles of the library are values of `Style`.
-/

namespace Docstore.Double

/-! ## Styles -/

/-- The decisions of a notation. The exponent meant is that of the first digit. -/
structure Style where
  /-- Smallest exponent written with the point in place. -/
  least : Int
  /-- First exponent that is not written with the point in place any more. -/
  bound : Int
  /-- Does a whole number keep `.0`? -/
  keepsPoint : Bool
  /-- Does a positive exponent carry `+`? -/
  plus : Bool
  /-- Which of two equally near decimals is written? -/
  tie : Tie

/-- Numbers in JSON text. -/
def jsonStyle : Style := { least := -5, bound := 16, keepsPoint := true, plus := true, tie := .even }

/-- Numbers in messages: never an exponent. -/
def plainStyle : Style :=
  { least := -400, bound := 400, keepsPoint := false, plus := false, tie := .upper }

/-- Numbers in debugging text. -/
def debugStyle : Style :=
  { least := -4, bound := 16, keepsPoint := true, plus := false, tie := .upper }

/-! ## Writing -/

/-- Digits with the point after the first `places` of them, zeros filled in on either side. -/
def positional (keepsPoint : Bool) (digits : List Char) (places : Int) : List Char :=
  let tail := if keepsPoint then ['.', '0'] else []
  if places ≤ 0 then '0' :: '.' :: List.replicate (-places).toNat '0' ++ digits
  else if places < digits.length then
    digits.take places.toNat ++ '.' :: digits.drop places.toNat
  else digits ++ List.replicate (places.toNat - digits.length) '0' ++ tail

/-- Digits with an exponent. -/
def exponential (plus : Bool) (digits : List Char) (exponent : Int) : List Char :=
  let mantissa := match digits with
    | first :: [] => [first]
    | first :: rest => first :: '.' :: rest
    | [] => []
  mantissa ++ 'e' :: (if plus && 0 < exponent then ['+'] else []) ++ (toString exponent).toList

/-- The absolute value of a finite double. -/
def renderMagnitude (style : Style) (x : Double) : List Char :=
  if x.isZero then (if style.keepsPoint then ['0', '.', '0'] else ['0'])
  else
    let decimal := x.shortest style.tie
    let all := (toString decimal.digits).toList
    let digits := Text.dropTrailing '0' all
    let exponent := decimal.exponent + all.length - 1
    if style.least ≤ exponent && exponent < style.bound then
      positional style.keepsPoint digits (exponent + 1)
    else exponential style.plus digits exponent

/-- A double in a given style. -/
def render (style : Style) (x : Double) : String :=
  if x.isNaN then "NaN"
  else
    let sign := if x.isNegative then "-" else ""
    sign ++ (if x.isFinite then String.ofList (renderMagnitude style x) else "inf")

end Docstore.Double

/-!
# `Docstore.Text.Numeral` — digits and whole numbers in text

## Contents
- **Digits.** `digit?` and `hexDigit?` read one character, `hexChar` writes one.
- **Numerals.** `natural?` reads digits alone, `unsigned?` allows a leading `+`, `integer?` a leading
  sign. Each reads the whole list of characters or nothing.
- **Hexadecimal bytes.** `hexBytes?` and `hexOfBytes`.
- **Columns.** `padLeft` fills a text up to a width.
-/

namespace Docstore.Text

/-! ## Digits -/

/-- The value of a decimal digit. -/
def digit? (c : Char) : Option Nat :=
  if '0' ≤ c ∧ c ≤ '9' then some (c.toNat - '0'.toNat) else none

/-- The value of a hexadecimal digit of either case. -/
def hexDigit? (c : Char) : Option Nat :=
  if '0' ≤ c ∧ c ≤ '9' then some (c.toNat - '0'.toNat)
  else if 'a' ≤ c ∧ c ≤ 'f' then some (c.toNat - 'a'.toNat + 10)
  else if 'A' ≤ c ∧ c ≤ 'F' then some (c.toNat - 'A'.toNat + 10)
  else none

/-- The lower-case hexadecimal digit of a value below 16. -/
def hexChar (n : Nat) : Char :=
  if n < 10 then Char.ofNat ('0'.toNat + n) else Char.ofNat ('a'.toNat + (n - 10))

/-- The ASCII lower case of a character; every other character stays. -/
def lowerChar (c : Char) : Char :=
  if 'A' ≤ c ∧ c ≤ 'Z' then Char.ofNat (c.toNat + 32) else c

/-- The text with its ASCII letters in lower case. -/
def lower (s : String) : String := String.ofList (s.toList.map lowerChar)

/-- Does the text begin with this character? -/
def beginsWith (c : Char) (s : String) : Bool := s.toList.head? == some c

/-! ## Numerals -/

/-- Appends digits of the given radix to a value already read; `none` at the first character that
is no digit. -/
def readDigits (value? : Char → Option Nat) (radix : Nat) : Nat → List Char → Option Nat
  | acc, [] => some acc
  | acc, c :: rest =>
    match value? c with
    | some d => readDigits value? radix (acc * radix + d) rest
    | none => none

/-- One decimal digit or more, and nothing else. -/
def natural? : List Char → Option Nat
  | [] => none
  | cs => readDigits digit? 10 0 cs

/-- Decimal digits after an optional `+`. -/
def unsigned? : List Char → Option Nat
  | '+' :: cs => natural? cs
  | cs => natural? cs

/-- Decimal digits after an optional sign. -/
def integer? : List Char → Option Int
  | '-' :: cs => (natural? cs).map fun n => -(n : Int)
  | '+' :: cs => (natural? cs).map fun n => (n : Int)
  | cs => (natural? cs).map fun n => (n : Int)

/-- An integer from `low` to `high`, both included. -/
def integerWithin? (low high : Int) (cs : List Char) : Option Int :=
  match integer? cs with
  | some n => if low ≤ n ∧ n ≤ high then some n else none
  | none => none

/-- An unsigned integer of at most `high`. -/
def unsignedUpTo? (high : Nat) (cs : List Char) : Option Nat :=
  match unsigned? cs with
  | some n => if n ≤ high then some n else none
  | none => none

/-! ## Hexadecimal bytes -/

/-- Pairs of hexadecimal digits as bytes; `none` at an odd digit or another character. -/
def hexBytes? : List Char → Option (List UInt8)
  | [] => some []
  | hi :: lo :: rest =>
    match hexDigit? hi, hexDigit? lo, hexBytes? rest with
    | some h, some l, some bytes => some (UInt8.ofNat (16 * h + l) :: bytes)
    | _, _, _ => none
  | _ => none

/-- The lowest `count` hexadecimal digits of a number, most significant first. -/
def hexDigits : Nat → Nat → List Char
  | 0, _ => []
  | count + 1, n => hexDigits count (n / 16) ++ [hexChar (n % 16)]

/-- Two lower-case digits for each byte. -/
def hexOfBytes (bytes : List UInt8) : String :=
  String.ofList (bytes.flatMap fun b => hexDigits 2 b.toNat)

/-! ## Columns -/

/-- Fills a text with `fill` on the left up to `width` characters. -/
def padLeft (fill : Char) (width : Nat) (s : String) : String :=
  String.ofList (List.replicate (width - s.length) fill) ++ s

/-- A natural number in at least `width` decimal digits. -/
def paddedNat (width n : Nat) : String := padLeft '0' width (toString n)

/-- Cuts the repeated character `c` off the end of a list. -/
def dropTrailing (c : Char) (cs : List Char) : List Char :=
  (cs.reverse.dropWhile (· == c)).reverse

end Docstore.Text

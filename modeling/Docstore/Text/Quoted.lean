import Docstore.Text.Numeral
import Docstore.Text.Unprintable

/-!
# `Docstore.Text.Quoted` — names between double quotes

Messages show a name between double quotes, with backslash escapes for the quote, the backslash,
line breaks and tabs, and `\u{…}` for every other character that would not show.
-/

namespace Docstore.Text

/-- The hexadecimal digits of a number, without leading zeros. -/
def hexNumeral (n : Nat) : List Char :=
  match (hexDigits 8 n).dropWhile (· == '0') with
  | [] => ['0']
  | ds => ds

/-- One character of a quoted text. -/
def escapeChar (c : Char) : List Char :=
  match c with
  | '"' => ['\\', '"']
  | '\\' => ['\\', '\\']
  | '\n' => ['\\', 'n']
  | '\r' => ['\\', 'r']
  | '\t' => ['\\', 't']
  | '\x00' => ['\\', '0']
  | c =>
    if c.toNat < 32 || c.toNat = 127 || (127 < c.toNat && isUnprintable c) then
      ['\\', 'u', '\x7b'] ++ hexNumeral c.toNat ++ ['\x7d']
    else [c]

/-- The text between double quotes, its special characters escaped. -/
def quoted (s : String) : String :=
  String.ofList ('"' :: s.toList.flatMap escapeChar ++ ['"'])

end Docstore.Text

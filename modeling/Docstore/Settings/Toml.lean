import Docstore.Text.Numeral

/-!
# `Docstore.Settings.Toml` — flat TOML documents

`readEntries?` reads a TOML document whose entries are texts and integers under simple keys, the
entries in order. A document with anything else, such as tables, arrays, numbers with a fraction or
keys with a dot, is refused, as is text that is no TOML.

## Contents
- **Blanks and lines.** `skipBlanks`, `lineEnd?`.
- **Texts.** `text?` reads the four kinds of quoted text.
- **Integers.** `integer?` reads decimal integers with a sign, and digits in base sixteen, eight and
  two.
- **Entries.** `entry?`, `readEntries?`.
-/

namespace Docstore.Toml

/-- The value of an entry. -/
inductive Scalar where
  | text (value : String)
  | integer (value : Int)
deriving DecidableEq, Repr

/-! ## Blanks and lines -/

/-- Is this a blank inside a line? -/
def isBlank (c : Char) : Bool := c = ' ' || c = '\t'

/-- Drops blanks. -/
def skipBlanks (cs : List Char) : List Char := cs.dropWhile isBlank

/-- Is this a control character that texts and comments must not hold? -/
def isControl (c : Char) : Bool := (c.toNat < 32 && c ≠ '\t') || c.toNat = 127

/-- What follows a comment. -/
def comment? : List Char → Option (List Char)
  | [] => some []
  | '\n' :: rest => some rest
  | '\r' :: '\n' :: rest => some rest
  | c :: rest => if isControl c then none else comment? rest

/-- What follows the end of a line, before which there may be blanks and a comment. -/
def lineEnd? (cs : List Char) : Option (List Char) :=
  match skipBlanks cs with
  | [] => some []
  | '\n' :: rest => some rest
  | '\r' :: '\n' :: rest => some rest
  | '#' :: rest => comment? rest
  | _ => none

/-! ## Texts -/

/-- The character of a code. -/
def charOfCode? (code : Nat) : Option Char :=
  if code.isValidChar then some (Char.ofNat code) else none

/-- A character that is written as a number of hexadecimal digits, and what follows. -/
def codeEscape? (digits : Nat) (cs : List Char) : Option (Char × List Char) := do
  let written := cs.take digits
  if written.length < digits then none
  else
    let code ← Text.readDigits Text.hexDigit? 16 0 written
    let c ← charOfCode? code
    pure (c, cs.drop digits)

/-- The character that an escape stands for, after its backslash, and what follows. -/
def escape? : List Char → Option (Char × List Char)
  | 'b' :: rest => some ('\x08', rest)
  | 't' :: rest => some ('\t', rest)
  | 'n' :: rest => some ('\n', rest)
  | 'f' :: rest => some ('\x0c', rest)
  | 'r' :: rest => some ('\r', rest)
  | 'e' :: rest => some ('\x1b', rest)
  | '"' :: rest => some ('"', rest)
  | '\\' :: rest => some ('\\', rest)
  | 'x' :: rest => codeEscape? 2 rest
  | 'u' :: rest => codeEscape? 4 rest
  | 'U' :: rest => codeEscape? 8 rest
  | _ => none

/-- The rest of a text on one line, up to its closing quote; `read` holds what is read, latest first. -/
def lineText? (quote : Char) (fuel : Nat) (read : List Char) (cs : List Char) :
    Option (List Char × List Char) :=
  match fuel, cs with
  | 0, _ => none
  | _, [] => none
  | fuel + 1, c :: rest =>
    if c = quote then some (read.reverse, rest)
    else if c = '\\' ∧ quote = '"' then do
      let (escaped, rest) ← escape? rest
      lineText? quote fuel (escaped :: read) rest
    else if isControl c then none
    else lineText? quote fuel (c :: read) rest

/-- Drops blanks and line breaks. None if they end in half a line break. -/
def skipBreaks? : List Char → Option (List Char)
  | [] => some []
  | '\r' :: '\n' :: rest => skipBreaks? rest
  | '\r' :: _ => none
  | c :: rest => if isBlank c || c = '\n' then skipBreaks? rest else some (c :: rest)

/-- What follows a backslash at the end of a line: everything from the next character that is neither
blank nor a line break. None if the backslash is not at the end of a line. -/
def continuation? (cs : List Char) : Option (List Char) :=
  match skipBlanks cs with
  | '\n' :: rest => skipBreaks? rest
  | '\r' :: '\n' :: rest => skipBreaks? rest
  | _ => none

/-- The rest of a text of several lines. It is closed by three quotes; one or two quotes right before
them belong to it. -/
def blockText? (quote : Char) (fuel : Nat) (read : List Char) (cs : List Char) :
    Option (List Char × List Char) :=
  match fuel, cs with
  | 0, _ => none
  | _, [] => none
  | fuel + 1, c :: rest =>
    if c = quote then
      let quotes := (c :: rest).takeWhile (· = quote)
      let after := (c :: rest).dropWhile (· = quote)
      if quotes.length < 3 then blockText? quote fuel (quotes ++ read) after
      else if 5 < quotes.length then none
      else some ((quotes.drop 3 ++ read).reverse, after)
    else if c = '\\' ∧ quote = '"' then
      match continuation? rest with
      | some rest => blockText? quote fuel read rest
      | none => do
        let (escaped, rest) ← escape? rest
        blockText? quote fuel (escaped :: read) rest
    else if c ≠ '\n' ∧ (c ≠ '\r' ∨ rest.head? ≠ some '\n') ∧ isControl c then none
    else blockText? quote fuel (c :: read) rest

/-- What follows a line break at the beginning of a text of several lines. -/
def skipLineBreak : List Char → List Char
  | '\n' :: rest => rest
  | '\r' :: '\n' :: rest => rest
  | cs => cs

/-- A quoted text, and what follows. -/
def text? (cs : List Char) : Option (List Char × List Char) :=
  match cs with
  | '"' :: '"' :: '"' :: rest => blockText? '"' cs.length [] (skipLineBreak rest)
  | '\'' :: '\'' :: '\'' :: rest => blockText? '\'' cs.length [] (skipLineBreak rest)
  | '"' :: rest => lineText? '"' cs.length [] rest
  | '\'' :: rest => lineText? '\'' cs.length [] rest
  | _ => none

/-! ## Integers -/

/-- Digits with single underscores between them, without the underscores. -/
def joinGroups? (isDigit : Char → Bool) : List Char → Option (List Char)
  | [] => none
  | [c] => if isDigit c then some [c] else none
  | c :: '_' :: rest => if isDigit c then (joinGroups? isDigit rest).map (c :: ·) else none
  | c :: rest => if isDigit c then (joinGroups? isDigit rest).map (c :: ·) else none

/-- The number of some digits in a base. -/
def digits? (value? : Char → Option Nat) (radix : Nat) (cs : List Char) : Option Nat := do
  let digits ← joinGroups? (fun c => (value? c).isSome) cs
  Text.readDigits value? radix 0 digits

/-- A digit below a bound. -/
def digitBelow? (bound : Nat) (c : Char) : Option Nat :=
  (Text.digit? c).bind fun n => if n < bound then some n else none

/-- A decimal number without needless zeros at its beginning. -/
def decimal? (cs : List Char) : Option Nat :=
  if cs.head? = some '0' ∧ cs.length ≠ 1 then none else digits? Text.digit? 10 cs

/-- The integer that a word stands for. -/
def integer? : List Char → Option Int
  | '0' :: 'x' :: rest => (digits? Text.hexDigit? 16 rest).map Int.ofNat
  | '0' :: 'o' :: rest => (digits? (digitBelow? 8) 8 rest).map Int.ofNat
  | '0' :: 'b' :: rest => (digits? (digitBelow? 2) 2 rest).map Int.ofNat
  | '+' :: rest => (decimal? rest).map Int.ofNat
  | '-' :: rest => (decimal? rest).map fun n => -(n : Int)
  | cs => (decimal? cs).map Int.ofNat

/-! ## Entries -/

/-- Is this a character of a key without quotes? -/
def isKeyChar (c : Char) : Bool := c.isAlphanum || c = '_' || c = '-'

/-- Is this a character of a number? -/
def isWordChar (c : Char) : Bool := isKeyChar c || c = '+' || c = '.' || c = ':'

/-- A key, and what follows. -/
def key? (cs : List Char) : Option (String × List Char) :=
  match cs with
  | '"' :: rest => (lineText? '"' cs.length [] rest).map fun (key, rest) => (String.ofList key, rest)
  | '\'' :: rest =>
    (lineText? '\'' cs.length [] rest).map fun (key, rest) => (String.ofList key, rest)
  | _ =>
    let key := cs.takeWhile isKeyChar
    if key.isEmpty then none else some (String.ofList key, cs.dropWhile isKeyChar)

/-- The value of an entry, and what follows. -/
def scalar? (cs : List Char) : Option (Scalar × List Char) :=
  match cs.head? with
  | some '"' | some '\'' =>
    (text? cs).map fun (read, rest) => (.text (String.ofList read), rest)
  | _ =>
    (integer? (cs.takeWhile isWordChar)).map fun n => (.integer n, cs.dropWhile isWordChar)

/-- An entry up to the end of its line, and what follows. -/
def entry? (cs : List Char) : Option ((String × Scalar) × List Char) := do
  let (key, rest) ← key? cs
  match skipBlanks rest with
  | '=' :: rest =>
    let (value, rest) ← scalar? (skipBlanks rest)
    let rest ← lineEnd? rest
    pure ((key, value), rest)
  | _ => none

/-- The entries of some lines. Every step takes at least one character, which `fuel` counts. -/
def entries? (fuel : Nat) (cs : List Char) : Option (List (String × Scalar)) :=
  match fuel, skipBlanks cs with
  | _, [] => some []
  | 0, _ => none
  | fuel + 1, line =>
    match lineEnd? line with
    | some rest => entries? fuel rest
    | none => do
      let (entry, rest) ← entry? line
      let entries ← entries? fuel rest
      pure (entry :: entries)

/-- The entries of a document, none of them twice. -/
def readEntries? (text : String) : Option (List (String × Scalar)) := do
  let cs := match text.toList with
    | '\ufeff' :: rest => rest
    | cs => cs
  let entries ← entries? (cs.length + 1) cs
  if (entries.map (·.1)).Nodup then pure entries else none

end Docstore.Toml

import Docstore.Text.Numeral

/-!
# `Docstore.Console.OutputMode` — ways of writing results
-/

namespace Docstore

/-- How the results of commands are written. -/
inductive OutputMode where
  /-- For people: indented, with counts. -/
  | human
  /-- One result to a line. -/
  | plain
  /-- One JSON value. -/
  | json
deriving DecidableEq, Repr

/-- The mode of a text in either case; no text and any other text stand for `human`. -/
def OutputMode.ofText (text : Option String) : OutputMode :=
  match text.map Text.lower with
  | some "json" => json
  | some "plain" => plain
  | _ => human

end Docstore

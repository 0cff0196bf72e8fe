import Docstore.Text.Numeral

/-!
# `Docstore.Path.Basic` — field paths

A path such as `customer.address.city` names a field by the names on the way to it. `FieldPath.parse`
accepts one to thirty-two segments, none of them empty and none beginning with `$`.
-/

namespace Docstore

/-- A dotted path: its segments, outermost first, at least one. -/
structure FieldPath where
  segments : List String
  nonempty : segments ≠ []
deriving DecidableEq, Repr

/-- Why a text is no path. The text is part of every cause but the first. -/
inductive PathError where
  | empty
  | tooDeep (text : String)
  | emptySegment (text : String)
  | dollarSegment (text : String)
deriving DecidableEq, Repr

namespace FieldPath

/-- The most segments a path has. -/
def maxDepth : Nat := 32

/-- Splits characters at the dots. -/
def splitDots : List Char → List (List Char)
  | [] => [[]]
  | c :: rest =>
    if c = '.' then [] :: splitDots rest
    else
      match splitDots rest with
      | [] => [[c]]
      | first :: others => (c :: first) :: others

theorem splitDots_ne_nil (cs : List Char) : splitDots cs ≠ [] := by
  cases cs with
  | nil => simp [splitDots]
  | cons c rest =>
    simp only [splitDots]
    split
    · simp
    · split <;> simp

/-- The path of some segments in dotted form. -/
def text (path : FieldPath) : String := ".".intercalate path.segments

end FieldPath

namespace PathError

/-- The wording of an error. -/
def message : PathError → String
  | empty => "field path must not be empty"
  | tooDeep text =>
    "field path '" ++ text ++ "' exceeds " ++ toString FieldPath.maxDepth ++ " segments"
  | emptySegment text => "field path '" ++ text ++ "' has an empty segment"
  | dollarSegment text => "field path '" ++ text ++ "' has a segment starting with '$'"

end PathError

namespace FieldPath

/-! ## Reading -/

/-- The first fault among the segments of a text. -/
def segmentFault? (text : String) : List (List Char) → Option PathError
  | [] => none
  | [] :: _ => some (.emptySegment text)
  | ('$' :: _) :: _ => some (.dollarSegment text)
  | _ :: rest => segmentFault? text rest

/-- Reads a dotted path. -/
def parse (text : String) : Except PathError FieldPath :=
  let segments := splitDots text.toList
  if text.isEmpty then .error .empty
  else if maxDepth < segments.length then .error (.tooDeep text)
  else
    match segmentFault? text segments with
    | some fault => .error fault
    | none =>
      .ok ⟨segments.map String.ofList, by
        intro h
        exact splitDots_ne_nil _ (List.map_eq_nil_iff.1 h)⟩

/-- Reads a reference `$a.b`; the dollar sign may be left out. -/
def parseReference (text : String) : Except PathError FieldPath :=
  match text.toList with
  | '$' :: rest => parse (String.ofList rest)
  | _ => parse text

end FieldPath
end Docstore

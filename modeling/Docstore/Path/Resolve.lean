import Docstore.Path.Basic
import Docstore.Value.Basic

/-!
# `Docstore.Path.Resolve` — reading what a path names

Three readings of a path in a document:

- `resolve` fans out over arrays: each document in the array resolves the rest of the path, and the
  values found come back as an array.
- `resolvePresent` does the same, but a fan-out that finds nothing is missing instead of empty.
- `resolveStrict` goes through documents only.

A missing field, or a scalar with more path to go, is missing.
-/

namespace Docstore

/-! ## With fan-out -/

/-- Resolves segments; `dropEmpty` makes a fan-out without values missing. -/
def resolveSegments (dropEmpty : Bool) : List String → Fields → Option Value
  | [], _ => none
  | [last], fields => Entries.get? last fields
  | head :: next :: rest, fields =>
    match Entries.get? head fields with
    | some (.document inner) => resolveSegments dropEmpty (next :: rest) inner
    | some (.array items) =>
      let found := items.filterMap fun item =>
        match item with
        | .document inner => resolveSegments dropEmpty (next :: rest) inner
        | _ => none
      if dropEmpty && found.isEmpty then none else some (.array found)
    | _ => none

/-- What a path names, fanning out over arrays. -/
def resolve (fields : Fields) (path : FieldPath) : Option Value :=
  resolveSegments false path.segments fields

/-- What a path names, where an array on the way counts only if something is found in it. -/
def resolvePresent (fields : Fields) (path : FieldPath) : Option Value :=
  resolveSegments true path.segments fields

/-! ## Through documents only -/

/-- Resolves segments through nested documents. -/
def resolveStrictSegments : List String → Fields → Option Value
  | [], _ => none
  | [last], fields => Entries.get? last fields
  | head :: next :: rest, fields =>
    match Entries.get? head fields with
    | some (.document inner) => resolveStrictSegments (next :: rest) inner
    | _ => none

/-- What a path names through nested documents alone. -/
def resolveStrict (fields : Fields) (path : FieldPath) : Option Value :=
  resolveStrictSegments path.segments fields

end Docstore

import Docstore.Path.Basic
import Docstore.Value.Basic

/-!
# `Docstore.Path.Edit` — writing, copying and removing at a path

- `setPath` writes a value and turns whatever stands in its way into documents.
- `copyPath` copies what a path names from one document into another and keeps the shape around it:
  documents stay documents, arrays keep one document for each of theirs.
- `removePath` takes a field out and says whether it was there.
-/

namespace Docstore

/-! ## Writing -/

/-- The fields of a document under a name, or none. -/
def childFields (name : String) (fields : Fields) : Fields :=
  match Entries.get? name fields with
  | some (.document inner) => inner
  | _ => []

/-- Writes a value at segments. -/
def setSegments (value : Value) : List String → Fields → Fields
  | [], fields => fields
  | [last], fields => Entries.insert last value fields
  | head :: next :: rest, fields =>
    let inner := setSegments value (next :: rest) (childFields head fields)
    Entries.insert head (.document inner) fields

/-- Writes a value at a path. -/
def setPath (fields : Fields) (path : FieldPath) (value : Value) : Fields :=
  setSegments value path.segments fields

/-! ## Copying -/

/-- The items of an array under a name, or none. -/
def childItems (name : String) (fields : Fields) : List Value :=
  match Entries.get? name fields with
  | some (.array items) => items
  | _ => []

/-- Copies into each document of an array, onto the documents copied there before; other items are
left out. -/
def copyItems (copy : Fields → Fields → Fields) : List Value → List Value → List Value
  | [], _ => []
  | .document inner :: rest, prior =>
    let base := match prior.head? with
      | some (.document built) => built
      | _ => []
    .document (copy inner base) :: copyItems copy rest prior.tail
  | _ :: rest, prior => copyItems copy rest prior

/-- Copies what segments name from one document into another. -/
def copySegments : List String → Fields → Fields → Fields
  | [], _, out => out
  | [last], source, out =>
    match Entries.get? last source with
    | some value => Entries.insert last value out
    | none => out
  | head :: next :: rest, source, out =>
    match Entries.get? head source with
    | some (.document inner) =>
      Entries.insert head (.document (copySegments (next :: rest) inner (childFields head out))) out
    | some (.array items) =>
      let copied := copyItems (fun inner base => copySegments (next :: rest) inner base) items
        (childItems head out)
      Entries.insert head (.array copied) out
    | _ => out

/-- Copies what a path names from `source` into `out`. -/
def copyPath (source out : Fields) (path : FieldPath) : Fields :=
  copySegments path.segments source out

/-! ## Removing -/

/-- Removes what segments name, if it is there. -/
def removeSegments? : List String → Fields → Option Fields
  | [], _ => none
  | [last], fields => if Entries.has last fields then some (Entries.erase last fields) else none
  | head :: next :: rest, fields =>
    match Entries.get? head fields with
    | some (.document inner) =>
      match removeSegments? (next :: rest) inner with
      | some left => some (Entries.insert head (.document left) fields)
      | none => none
    | _ => none

/-- Removes what a path names, if it is there. -/
def removePath? (fields : Fields) (path : FieldPath) : Option Fields :=
  removeSegments? path.segments fields

/-- The document without what a path names. -/
def removePath (fields : Fields) (path : FieldPath) : Fields :=
  (removePath? fields path).getD fields

end Docstore

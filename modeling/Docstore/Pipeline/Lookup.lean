import Docstore.Path.Edit
import Docstore.Path.Resolve
import Docstore.Value.Key
import Std.Data.HashMap

/-!
# `Docstore.Pipeline.Lookup` — joining another collection

A `Lookup` adds to each document the documents of another collection whose foreign field equals its
local field. An array stands for each of its items, on the foreign side also for itself; a missing
value counts as null.

## Contents
- **Keys.** `Lookup.foreignKeys` and `Lookup.localKeys`: two documents match if they share one.
- **Index.** `ForeignIndex` finds the places of the foreign documents of a key.
- **Joining.** `ForeignIndex.attach` adds the matching documents, in the order of their collection.
-/

namespace Docstore

/-- A join with another collection. -/
structure Lookup where
  source : String
  localField : FieldPath
  foreignField : FieldPath
  target : FieldPath
deriving Repr

namespace Lookup

/-! ## Keys -/

/-- The keys under which a foreign document is found. -/
def foreignKeys (lookup : Lookup) (document : Fields) : List ValueKey :=
  let found := resolve document lookup.foreignField
  match found with
  | some (.array items) => items.map ValueKey.of ++ [ValueKey.ofOption found]
  | _ => [ValueKey.ofOption found]

/-- The keys that a document asks for. -/
def localKeys (lookup : Lookup) (document : Fields) : List ValueKey :=
  let found := resolve document lookup.localField
  match found with
  | some (.array items) => items.map ValueKey.of
  | _ => [ValueKey.ofOption found]

end Lookup

/-! ## Index -/

/-- Foreign documents and their places by key, the latest place first. -/
structure ForeignIndex where
  documents : Array Fields
  places : Std.HashMap ValueKey (List Nat)

namespace ForeignIndex

/-- Adds a place to those of a key, once. -/
def addPlace (place : Nat) (places : Std.HashMap ValueKey (List Nat)) (key : ValueKey) :
    Std.HashMap ValueKey (List Nat) :=
  let known := places.getD key []
  if known.head? = some place then places else places.insert key (place :: known)

/-- Adds a document to an index. -/
def add (lookup : Lookup) (index : ForeignIndex) (document : Fields) : ForeignIndex :=
  let ⟨documents, places⟩ := index
  let place := documents.size
  ⟨documents.push document, (lookup.foreignKeys document).foldl (addPlace place) places⟩

/-- The index of a collection. -/
def build (lookup : Lookup) (documents : List Fields) : ForeignIndex :=
  documents.foldl (add lookup) ⟨#[], ∅⟩

/-! ## Joining -/

/-- Drops repetitions from an ascending list. -/
def distinct : List Nat → List Nat
  | [] => []
  | place :: rest =>
    match distinct rest with
    | [] => [place]
    | next :: later => if place = next then next :: later else place :: next :: later

/-- The places of the documents of some keys, ascending, each once. -/
def hits (index : ForeignIndex) (keys : List ValueKey) : List Nat :=
  distinct ((keys.flatMap fun key => index.places.getD key []).mergeSort)

/-- The documents of some keys, in the order of their collection. -/
def matching (index : ForeignIndex) (keys : List ValueKey) : List Fields :=
  (index.hits keys).filterMap fun place => index.documents[place]?

/-- Adds to a document the documents that match it. -/
def attach (lookup : Lookup) (index : ForeignIndex) (document : Fields) : Fields :=
  let joined := index.matching (lookup.localKeys document)
  setPath document lookup.target (.array (joined.map .document))

end ForeignIndex
end Docstore

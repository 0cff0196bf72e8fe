import Docstore.Path.Edit
import Docstore.Path.Resolve

/-!
# `Docstore.Pipeline.Unwind` — one document per item of an array

An `Unwind` makes of a document with an array one document per item, the item in the place of the array.
A document without an array there passes as it is.
-/

namespace Docstore

/-- What to expand and how. -/
structure Unwind where
  path : FieldPath
  /-- Keep a document with an empty array, without the array. -/
  keepsEmpty : Bool
  /-- Where to write the place of the item in the array, or null if there is no item. -/
  indexPath : Option FieldPath
deriving Repr

namespace Unwind

/-- Writes the place of an item, if it is asked for. -/
def withIndex (unwind : Unwind) (index : Value) (document : Fields) : Fields :=
  match unwind.indexPath with
  | some path => setPath document path index
  | none => document

/-- The document with one item in the place of the array. -/
def withItem (unwind : Unwind) (document : Fields) (item : Value) (index : Nat) : Fields :=
  unwind.withIndex (.int64 (Int64.ofNat index)) (setPath document unwind.path item)

/-- The documents that one document is expanded to. -/
def expand (unwind : Unwind) (document : Fields) : List Fields :=
  match resolveStrict document unwind.path with
  | some (.array []) =>
    if unwind.keepsEmpty then [unwind.withIndex .null (removePath document unwind.path)] else []
  | some (.array items) =>
    items.zipIdx.map fun (item, index) => unwind.withItem document item index
  | _ => [unwind.withIndex .null document]

end Unwind
end Docstore

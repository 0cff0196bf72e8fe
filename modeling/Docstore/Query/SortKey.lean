import Docstore.Path.Resolve
import Docstore.Value.Order

/-!
# `Docstore.Query.SortKey` — orders on documents

Documents are ordered by the values at some paths, the first path that tells them apart deciding. A
missing value counts as null.
-/

namespace Docstore

/-- The direction of an order. -/
inductive Direction where
  | ascending | descending
deriving DecidableEq, Repr

/-- One path that documents are ordered by. -/
structure SortKey where
  path : FieldPath
  direction : Direction
deriving DecidableEq, Repr

/-- The most keys of an order. -/
def maxSortKeys : Nat := 8

namespace SortKey

/-- Orders two documents by one key. -/
def compare (key : SortKey) (a b : Fields) : Ordering :=
  let forward := ((resolve a key.path).getD .null).order ((resolve b key.path).getD .null)
  match key.direction with
  | .ascending => forward
  | .descending => forward.swap

end SortKey

/-- Orders two documents by several keys. -/
def compareDocuments : List SortKey → Fields → Fields → Ordering
  | [], _, _ => .eq
  | key :: rest, a, b => (key.compare a b).then (compareDocuments rest a b)

end Docstore

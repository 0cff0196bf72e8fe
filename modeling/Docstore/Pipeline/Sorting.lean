import Docstore.Query.SortKey
import Docstore.Sorting.Stable

/-!
# `Docstore.Pipeline.Sorting` — sorting documents

`sortDocuments` sorts documents by some keys; documents that no key tells apart keep their order.
-/

namespace Docstore

/-- Is one document strictly before another? -/
def isBefore (keys : List SortKey) (a b : Fields) : Bool := compareDocuments keys a b == .lt

/-- Sorts documents. -/
def sortDocuments (keys : List SortKey) (documents : List Fields) : List Fields :=
  Sorting.sortStable (isBefore keys) documents

end Docstore

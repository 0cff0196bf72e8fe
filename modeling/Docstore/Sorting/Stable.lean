import Docstore.Sorting.Partition

/-!
# `Docstore.Sorting.Stable` — stable sorting

`sortStable` sorts a list and leaves equal elements in their order. Very short lists are sorted by
insertion, all others by merging runs; in longer ones what is not in order is sorted by partition.
-/

namespace Docstore.Sorting

variable {α : Type}

/-- The longest list that is sorted by insertion. -/
def maxInsertion : Nat := 20

/-- Sorts a piece of a longer list, with at most two partitions for every doubling of its length. -/
def sortPiece (less : α → α → Bool) (xs : List α) : List α :=
  partitionSort less (2 * xs.length.log2) none xs

/-- Sorts a list; `less` is a strict order. -/
def sortStable (less : α → α → Bool) (xs : List α) : List α :=
  if xs.length ≤ maxInsertion then insertionSort less xs
  else sortRuns less (decide (xs.length ≤ 2 * maxShort)) (sortPiece less) xs

end Docstore.Sorting

import Docstore.Sorting.Merge

/-!
# `Docstore.Sorting.Short` — sorting short lists

Very short lists are sorted by insertion. `sortShort` sorts somewhat longer ones: it sorts the two halves,
four elements by comparing pairs and the others by insertion, and merges them from both ends.

## Contents
- **Insertion.** `insertFromEnd`, `insertAll`, `insertionSort`.
- **Halves.** `sortFour`, `sortHalf`, `sortShort`.
-/

namespace Docstore.Sorting

variable {α : Type}

/-! ## Insertion -/

/-- Puts an element into a sorted list that is held from its end: behind all that are not after it. -/
def insertFromEnd (less : α → α → Bool) (x : α) : List α → List α
  | [] => [x]
  | last :: rest =>
    if less x last then last :: insertFromEnd less x rest else x :: last :: rest

/-- Puts elements into a sorted list, one after the other. -/
def insertAll (less : α → α → Bool) (sorted xs : List α) : List α :=
  (xs.foldl (fun held x => insertFromEnd less x held) sorted.reverse).reverse

/-- Sorts by insertion. -/
def insertionSort (less : α → α → Bool) (xs : List α) : List α := insertAll less [] xs

/-! ## Halves -/

/-- Two elements in order. -/
def sortTwo (less : α → α → Bool) (x y : α) : α × α := if less y x then (y, x) else (x, y)

/-- Four elements in order. Two pairs are put in order first; the lesser of their beginnings is the least
element, the greater of their ends the greatest, and the other two are compared once more. -/
def sortFour (less : α → α → Bool) (x y z w : α) : List α :=
  let (a, b) := sortTwo less x y
  let (c, d) := sortTwo less z w
  let (least, left, right, greatest) :=
    match less c a, less d b with
    | false, false => (a, b, c, d)
    | false, true => (a, c, d, b)
    | true, false => (c, a, b, d)
    | true, true => (c, a, d, b)
  let (low, high) := sortTwo less left right
  [least, low, high, greatest]

/-- Sorts one half of a list; with `four` its first four elements are sorted together. -/
def sortHalf (less : α → α → Bool) (four : Bool) (xs : List α) : List α :=
  match four, xs with
  | true, x :: y :: z :: w :: rest => insertAll less (sortFour less x y z w) rest
  | _, xs => insertionSort less xs

/-- Sorts by halves. -/
def sortShort (less : α → α → Bool) (xs : List α) : List α :=
  let half := xs.length / 2
  let four := decide (8 ≤ xs.length)
  mergeEnds less (sortHalf less four (xs.take half)) (sortHalf less four (xs.drop half))

end Docstore.Sorting

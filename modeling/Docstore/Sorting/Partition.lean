import Docstore.Sorting.Runs

/-!
# `Docstore.Sorting.Partition` — sorting by partition

A list is split into the elements less than a pivot and the others, and both parts are sorted in turn.
The pivot is a median of samples. If it turns out to be a least element, the elements equal to it are
set aside at once.

## Contents
- **Pivot.** `medianOfThree`, `representative?`.
- **Partition.** `splitAround`, `partitionSort`.
-/

namespace Docstore.Sorting

variable {α : Type}

/-! ## Pivot -/

/-- The one of three elements that is neither least nor greatest, each given with its place. -/
def medianOfThree (less : α → α → Bool) (a b c : Nat × α) : Nat × α :=
  let below := less a.2 b.2
  if below == less a.2 c.2 then (if less b.2 c.2 == below then b else c) else a

/-- An element of the section of `count` elements from `start` on that stands for it, with its place:
the first one of a short section, otherwise the median of three parts of an eighth each. -/
def representative? (less : α → α → Bool) (xs : Array α) (start count : Nat) : Option (Nat × α) :=
  if count < 8 then (xs[start]?).map (start, ·)
  else do
    let eighth := count / 8
    let a ← representative? less xs start eighth
    let b ← representative? less xs (start + 4 * eighth) eighth
    let c ← representative? less xs (start + 7 * eighth) eighth
    return medianOfThree less a b c
termination_by count

/-! ## Partition -/

/-- Splits a list at a pivot into the elements that go before and the others, both in their old order. -/
def splitAround (goesBefore : α → Bool) (pivotGoesBefore : Bool) (pivot : α) (left right : List α) :
    List α × List α :=
  let (leftBefore, leftAfter) := left.partition goesBefore
  let (rightBefore, rightAfter) := right.partition goesBefore
  if pivotGoesBefore then (leftBefore ++ pivot :: rightBefore, leftAfter ++ rightAfter)
  else (leftBefore ++ rightBefore, leftAfter ++ pivot :: rightAfter)

/-- Sorts by partition, at most `limit` times on the way to every element. `floor?` is the pivot of which
it is known that no element is less, if there is one. -/
def partitionSort (less : α → α → Bool) (limit : Nat) (floor? : Option α) (xs : List α) : List α :=
  if xs.length ≤ maxShort then sortShort less xs
  else
    match limit, representative? less xs.toArray 0 xs.length with
    | limit + 1, some (place, pivot) =>
      let left := xs.take place
      let right := xs.drop (place + 1)
      let (before, others) := splitAround (less · pivot) false pivot left right
      if floor?.any (fun floor => !less floor pivot) || before.isEmpty then
        let (equal, greater) := splitAround (fun x => !less pivot x) true pivot left right
        equal ++ partitionSort less limit none greater
      else
        partitionSort less limit floor? before ++ partitionSort less limit (some pivot) others
    | _, _ => sortEagerly less xs

end Docstore.Sorting

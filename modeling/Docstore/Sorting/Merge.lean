/-!
# `Docstore.Sorting.Merge` — merging sorted lists

Two sorted lists become one, and of equal elements those of the left list come first. The elements are
taken from the front, from the back, or from both ends. For a weak order all ways give the same list.
They are kept apart because the order of values is none where large integers meet doubles: there the
result depends on which elements are compared.

## Contents
- **One end.** `mergeFront`, `mergeBack`, and `merge`, which chooses between them.
- **Both ends.** `mergeEnds`.
-/

namespace Docstore.Sorting

variable {α : Type}

/-! ## One end -/

/-- Merges from the front: the right element comes first only if it is less. -/
def mergeFront (less : α → α → Bool) (xs ys : List α) : List α :=
  xs.merge ys fun x y => !less y x

/-- Merges from the back: the left element comes last only if the right one is less. -/
def mergeBack (less : α → α → Bool) (xs ys : List α) : List α :=
  (ys.reverse.merge xs.reverse fun y x => !less y x).reverse

/-- Merges from the end at which the shorter list is used up sooner. -/
def merge (less : α → α → Bool) (xs ys : List α) : List α :=
  if xs.length ≤ ys.length then mergeFront less xs ys else mergeBack less xs ys

/-! ## Both ends -/

/-- The first elements of a merge, and what it leaves of the two lists. -/
def mergeSome (goesFirst : α → α → Bool) : Nat → List α → List α → List α × List α × List α
  | count + 1, x :: xs, y :: ys =>
    if goesFirst x y then
      let (merged, rest) := mergeSome goesFirst count xs (y :: ys)
      (x :: merged, rest)
    else
      let (merged, rest) := mergeSome goesFirst count (x :: xs) ys
      (y :: merged, rest)
  | _, xs, ys => ([], xs, ys)

/-- Merges from both ends until all elements of one half are placed, and puts what is left between them.
If the ends do not meet, the lists are merged from the front. -/
def mergeEnds (less : α → α → Bool) (xs ys : List α) : List α :=
  let (front, xsAfter, ysAfter) := mergeSome (fun x y => !less y x) xs.length xs ys
  let (back, ysBefore, xsBefore) :=
    mergeSome (fun y x => !less y x) xs.length ys.reverse xs.reverse
  let xsSpan := xsAfter.length + xsBefore.length
  let ysSpan := ysAfter.length + ysBefore.length
  if xs.length ≤ xsSpan ∧ ys.length ≤ ysSpan then
    front ++ xsAfter.take (xsSpan - xs.length) ++ ysAfter.take (ysSpan - ys.length) ++ back.reverse
  else mergeFront less xs ys

end Docstore.Sorting

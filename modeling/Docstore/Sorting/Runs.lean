import Docstore.Sorting.Short

/-!
# `Docstore.Sorting.Runs` — sorting by merging runs

A list is cut into runs: stretches that are in order already, if they are long enough, and pieces of
other elements. Neighbouring runs are merged in the order of a nearly balanced tree, for which the depth
of every merge is known in advance. Pieces that are not in order are not sorted before they have to be.

## Contents
- **Runs.** `Run`, `stretch`, `firstRun`, `splitRuns`.
- **Merging.** `Run.join`, `mergeDepth`, `collapse`, `mergeRuns`.
- **Sorting.** `sortRuns`, and `sortEagerly`, which sorts every piece at once.
-/

namespace Docstore.Sorting

variable {α : Type}

/-! ## Runs -/

/-- A piece of a list, and whether it is in order. -/
structure Run (α : Type) where
  items : List α
  isSorted : Bool
deriving Repr

/-- The elements after `previous` each of which is less than the one before it, or each of which is not. -/
def stretch (less : α → α → Bool) (falling : Bool) (previous : α) : List α → List α
  | [] => []
  | x :: rest => if less x previous == falling then x :: stretch less falling x rest else []

/-- The longest beginning that rises, or falls with no two equal elements, put in order. -/
def orderedBeginning (less : α → α → Bool) : List α → List α
  | x :: y :: rest =>
    let falling := less y x
    let items := x :: stretch less falling x (y :: rest)
    if falling then items.reverse else items
  | xs => xs

/-- The longest piece that is sorted by halves. -/
def maxShort : Nat := 32

/-- The first run of a list: its ordered beginning if that has `good` elements, otherwise a piece of it,
which is sorted at once if `eager`. -/
def firstRun (less : α → α → Bool) (eager : Bool) (good : Nat) (xs : List α) : Run α :=
  let ordered := orderedBeginning less xs
  if good ≤ ordered.length then ⟨ordered, true⟩
  else if eager then ⟨sortShort less (xs.take maxShort), true⟩
  else ⟨xs.take good, false⟩

/-- The runs of a list. -/
def splitRuns (less : α → α → Bool) (eager : Bool) (good : Nat) : List α → List (Run α)
  | [] => []
  | x :: rest =>
    let run := firstRun less eager good (x :: rest)
    run :: splitRuns less eager good (rest.drop (run.items.length - 1))
termination_by xs => xs.length
decreasing_by rw [List.length_drop, List.length_cons]; omega

/-! ## Merging -/

/-- The elements of a run in order; `sortPiece` sorts what is not in order. -/
def Run.settle (sortPiece : List α → List α) (run : Run α) : List α :=
  if run.isSorted then run.items else sortPiece run.items

/-- Makes one run of two neighbours. Two pieces that are not in order become a longer such piece. -/
def Run.join (less : α → α → Bool) (sortPiece : List α → List α) (left right : Run α) : Run α :=
  if left.isSorted || right.isSorted then
    ⟨merge less (left.settle sortPiece) (right.settle sortPiece), true⟩
  else ⟨left.items ++ right.items, false⟩

/-- The depth at which two neighbouring runs are merged in a list of `total` elements: the first binary
place in which the middles of the two, as fractions of the list, differ. The runs begin at `start` and at
`middle`, and the second ends before `stop`. -/
def mergeDepth (total start middle stop : Nat) : Nat :=
  let scale := (0x4000000000000000 + total - 1) / total
  63 - Nat.log2 ((scale * (start + middle)) ^^^ (scale * (middle + stop)))

/-- Merges a run with those before it that want to be merged at `depth` or deeper. The runs before it are
given from the last one on, each with the depth at which it is merged with its successor. -/
def collapse (less : α → α → Bool) (sortPiece : List α → List α) (depth : Nat) (run : Run α) :
    List (Run α × Nat) → Run α × List (Run α × Nat)
  | [] => (run, [])
  | (left, leftDepth) :: rest =>
    if depth ≤ leftDepth then collapse less sortPiece depth (left.join less sortPiece run) rest
    else (run, (left, leftDepth) :: rest)

/-- Merges runs into one. `run` is the last one so far and ends before `place`; `before` are those before
it. -/
def mergeRuns (less : α → α → Bool) (sortPiece : List α → List α) (total : Nat) (place : Nat)
    (run : Run α) (before : List (Run α × Nat)) : List (Run α) → Run α
  | [] => (collapse less sortPiece 0 run before).1
  | next :: rest =>
    let stop := place + next.items.length
    let depth := mergeDepth total (place - run.items.length) place stop
    let (merged, before) := collapse less sortPiece depth run before
    mergeRuns less sortPiece total stop next ((merged, depth) :: before) rest

/-! ## Sorting -/

/-- How long an ordered beginning has to be to count as a run of its own: half of a short list, 64
elements of a longer one, and about the square root of the length of a very long one. -/
def goodLength (total : Nat) : Nat :=
  if total ≤ 4096 then min (total - total / 2) 64
  else
    let guess := Nat.pow 2 ((total.log2 + 1) / 2)
    (guess + total / guess) / 2

/-- Sorts by merging runs. -/
def sortRuns (less : α → α → Bool) (eager : Bool) (sortPiece : List α → List α) (xs : List α) :
    List α :=
  match splitRuns less eager (goodLength xs.length) xs with
  | [] => []
  | first :: rest =>
    (mergeRuns less sortPiece xs.length first.items.length first [] rest).settle sortPiece

/-- Sorts by merging runs all of which are put in order first. -/
def sortEagerly (less : α → α → Bool) (xs : List α) : List α :=
  sortRuns less true (sortShort less) xs

end Docstore.Sorting

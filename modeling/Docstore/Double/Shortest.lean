import Docstore.Double.Basic

/-!
# `Docstore.Double.Shortest` — the fewest digits that read back

The reals that round to a double form an interval around it. `shortest` looks for the coarsest
decimal grid with a point in that interval and takes the point nearest to the double; which of two
equally near ones is a `Tie`'s decision. All comparisons are between natural numbers: quarters of a unit, scaled by a power of
ten where the grid is finer than one.
-/

namespace Docstore.Double

/-- The decimal number `digits · 10^exponent`. -/
structure Scientific where
  digits : Nat
  exponent : Int
deriving DecidableEq, Repr

/-- Which of two equally near points of a grid stands for a double. -/
inductive Tie where
  /-- The even one. -/
  | even
  /-- The larger one. -/
  | upper
deriving DecidableEq, Repr

/-- The interval of reals that round to a double, in quarters of `2⁻¹⁰⁷⁴`. -/
structure RoundingInterval where
  low : Nat
  middle : Nat
  high : Nat
  /-- Do the end points round to the double too? -/
  closed : Bool

/-- The rounding interval of a finite double other than zero. Below a power of two the doubles lie
twice as dense, so the lower half of the interval is half as wide there. -/
def roundingInterval (x : Double) : RoundingInterval :=
  let exponent := x.magnitude / fractions
  let fraction := x.magnitude % fractions
  let gap := Nat.pow 2 (exponent - 1)
  { low := 4 * x.units - (if fraction = 0 ∧ 1 < exponent then gap else 2 * gap)
    middle := 4 * x.units
    high := 4 * x.units + 2 * gap
    closed := fraction % 2 == 0 }

/-- Quarters of a unit in one. -/
def quartersPerOne : Nat := 4 * unitsPerOne

/-- The point of the grid `10^k` that stands for a double, if the grid has one in its interval. -/
def gridPoint? (tie : Tie) (i : RoundingInterval) (k : Int) : Option Nat :=
  let up := Nat.pow 10 (-k).toNat
  let step := quartersPerOne * Nat.pow 10 k.toNat
  let below := i.middle * up / step
  let inside (n : Nat) : Bool :=
    if i.closed then i.low * up ≤ n * step && n * step ≤ i.high * up
    else i.low * up < n * step && n * step < i.high * up
  let rest := i.middle * up - below * step
  let upper := step < 2 * rest || (step == 2 * rest && (tie = .upper || below % 2 == 1))
  match inside below, inside (below + 1) with
  | true, true => some (if upper then below + 1 else below)
  | true, false => some below
  | false, true => some (below + 1)
  | false, false => none

/-- Tries the grids `10^k`, `10^(k-1)`, … in turn. -/
def searchGrids (tie : Tie) (i : RoundingInterval) : Nat → Int → Scientific
  | 0, k => ⟨i.middle, k⟩
  | fuel + 1, k =>
    match gridPoint? tie i k with
    | some n => ⟨n, k⟩
    | none => searchGrids tie i fuel (k - 1)

/-- A power of ten above every double of this size. -/
def topGrid (x : Double) : Int :=
  ((x.units.log2 : Int) - 1074) * 30103 / 100000 + 2

/-- The shortest decimal that reads back as a finite double other than zero, sign aside. The grid
`10⁻³²⁵` has a point in every interval, so the search always ends at a grid point. -/
def shortest (tie : Tie) (x : Double) : Scientific :=
  searchGrids tie x.roundingInterval (x.topGrid + 330).toNat x.topGrid

end Docstore.Double

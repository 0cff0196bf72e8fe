import Docstore.Proofs.Pipeline.Group
import Mathlib.Algebra.BigOperators.Group.List.Basic

/-!
# `Docstore.Proofs.Pipeline.Sum` — sums are exact until they cannot be

A total begins as a whole number. It stays one as long as the values are integers, or no numbers at all, and
every sum on the way fits 64 bits (`Total.Exact`); with the first value that breaks this it becomes a double,
and it never comes back (`Total.add_double`). So one induction over the values, the last one at a time, says
what any list of them adds up to: `Total.foldl_add`.

Every sum on the way depends on the order of the values. The sum of their absolute values does not, and no
sum on the way is larger; where it fits, the order does not count (`Total.exact_of_sum_natAbs`).

## Contents
- **Numbers.** `Value.isFloating`, `Value.IsSmallest`, `Total.integersOf`.
- **One value.** `Total.add_of_floating`, `Total.add_of_other`, `Total.add_double`.
- **All values.** `Total.Exact`, `Total.exact_concat_iff`, `Total.foldl_add`; `Total.value_of_exact`,
  `Total.value_of_not_exact`.
- **Order.** `Total.exact_of_sum_natAbs`.
- **Sums.** `Accumulator.sum_exact_iff`.
-/

namespace Docstore

/-! ## Numbers -/

/-- Is this a number, but no integer? -/
def Value.isFloating : Value → Bool
  | double _ | decimal _ => true
  | _ => false

/-- A value is the smallest integer value that holds a number: 32 bits where they are enough, else 64. -/
def Value.IsSmallest (n : Int) (value : Value) : Prop :=
  (∃ m : Int32, value = int32 m ∧ m.toInt = n) ∨
    ∃ m : Int64, value = int64 m ∧ m.toInt = n ∧ ¬(-2 ^ 31 ≤ n ∧ n < 2 ^ 31)

theorem Value.isSmallest_ofInt64 (n : Int64) : (ofInt64 n).IsSmallest n.toInt := by
  unfold ofInt64
  split_ifs with h
  · exact .inl ⟨n.toInt32, rfl, toInt_toInt32 h⟩
  · rw [Int32.toInt_minValue, Int32.toInt_maxValue] at h
    exact .inr ⟨n, rfl, rfl, by omega⟩

namespace Total

variable {values others : List Value} {value : Value} {total : Total} {n : Int64}

/-- The integers among some values. -/
def integersOf (values : List Value) : List Int :=
  values.filterMap fun value => value.integer?.map Int64.toInt

/-- An integer that comes last is the last of the integers. -/
theorem integersOf_concat_of_integer (h : value.integer? = some n) :
    integersOf (values ++ [value]) = integersOf values ++ [n.toInt] := by
  simp [integersOf, h]

theorem integersOf_concat_of_none (h : value.integer? = none) :
    integersOf (values ++ [value]) = integersOf values := by
  simp [integersOf, h]

/-! ## One value -/

theorem isFloating_of_integer (h : value.integer? = some n) : value.isFloating = false := by
  cases value <;> first | rfl | exact nomatch h

/-- A number that is no integer makes a double of any total. -/
theorem add_of_floating (h : value.isFloating = true) (total : Total) :
    ∃ x, total.add value = .double x := by
  cases value with
  | double x => exact ⟨_, rfl⟩
  | decimal d => exact ⟨_, rfl⟩
  | _ => exact nomatch h

/-- What is no number adds nothing. -/
theorem add_of_other (h : value.isFloating = false) (hinteger : value.integer? = none) (total : Total) :
    total.add value = total := by
  cases value with
  | int32 n => exact nomatch hinteger
  | int64 n => exact nomatch hinteger
  | double x => exact nomatch h
  | decimal d => exact nomatch h
  | _ => rfl

/-- **A double never becomes a whole number again.** -/
theorem add_double (x : Double) (value : Value) : ∃ y, (Total.double x).add value = .double y := by
  cases hinteger : value.integer? with
  | some n => exact ⟨_, add_of_integer hinteger _⟩
  | none =>
      cases hfloating : value.isFloating with
      | true => exact add_of_floating hfloating _
      | false => exact ⟨x, add_of_other hfloating hinteger _⟩

/-! ## All values -/

/-- A whole number that a total can be. -/
def Fits (n : Int) : Prop := Double.int64Low ≤ n ∧ n ≤ Double.int64High

/-- A total stays whole as long as the sum fits. -/
theorem addInteger_of_fits {sum n : Int} (h : Fits (sum + n)) :
    (whole sum).addInteger n = whole (sum + n) := if_pos h

/-- A total whose sum does not fit becomes a double. -/
theorem addInteger_of_not_fits {sum n : Int} (h : ¬Fits (sum + n)) :
    ∃ x, (whole sum).addInteger n = .double x := ⟨_, if_neg h⟩

/-- Values add up to a whole number: all numbers among them are integers, and the sum of any number of the
first of these fits. -/
structure Exact (values : List Value) : Prop where
  integral : ∀ value ∈ values, value.isFloating = false
  fits : ∀ first, first <+: integersOf values → Fits first.sum

theorem Exact.fits_sum (h : Exact values) : Fits (integersOf values).sum :=
  h.fits _ (List.prefix_refl _)

theorem exact_nil : Exact [] where
  integral := nofun
  fits first h := by
    obtain rfl := List.prefix_nil.mp h
    exact ⟨by decide, by decide⟩

/-- One more value keeps values exact if it is no floating number, and if the sum with it fits. -/
theorem exact_concat_iff : Exact (values ++ [value]) ↔ Exact values ∧ value.isFloating = false ∧
    ∀ n, value.integer? = some n → Fits ((integersOf values).sum + n.toInt) := by
  constructor
  · rintro ⟨hintegral, hfits⟩
    refine ⟨⟨fun other hm => hintegral other (by simp [hm]), fun first hfirst => hfits first ?_⟩,
      hintegral value (by simp), ?_⟩
    · refine hfirst.trans ?_
      unfold integersOf
      rw [List.filterMap_append]
      exact List.prefix_append _ _
    · intro n hn
      have hlast := hfits _ (List.prefix_refl _)
      rwa [integersOf_concat_of_integer hn, List.sum_append, List.sum_singleton] at hlast
  · rintro ⟨⟨hintegral, hfits⟩, hfloating, hlast⟩
    constructor
    · intro other hm
      rcases List.mem_append.mp hm with hm | hm
      · exact hintegral other hm
      · obtain rfl := List.mem_singleton.mp hm
        exact hfloating
    · intro first hfirst
      cases hinteger : value.integer? with
      | none =>
          rw [integersOf_concat_of_none hinteger] at hfirst
          exact hfits first hfirst
      | some n =>
          rw [integersOf_concat_of_integer hinteger, List.prefix_concat_iff] at hfirst
          -- the beginning is all integers, or one of those before the last
          rcases hfirst with rfl | hfirst
          · rw [List.sum_append, List.sum_singleton]
            exact hlast n hinteger
          · exact hfits first hfirst

/-- **What values add up to:** their sum where they are exact, and else a double. -/
theorem foldl_add (values : List Value) :
    (Exact values ∧ values.foldl add (whole 0) = whole (integersOf values).sum) ∨
      (¬Exact values ∧ ∃ x, values.foldl add (whole 0) = .double x) := by
  induction values using List.reverseRecOn with
  | nil => exact .inl ⟨exact_nil, rfl⟩
  | append_singleton values value ih =>
      rw [List.foldl_concat, exact_concat_iff]
      rcases ih with ⟨hexact, hsum⟩ | ⟨hexact, x, hx⟩
      · rw [hsum]
        cases hinteger : value.integer? with
        | some n =>
            have hfloating := isFloating_of_integer hinteger
            rw [add_of_integer hinteger, integersOf_concat_of_integer hinteger, List.sum_append,
              List.sum_singleton]
            by_cases hfits : Fits ((integersOf values).sum + n.toInt)
            · refine .inl ⟨⟨hexact, hfloating, ?_⟩, addInteger_of_fits hfits⟩
              rintro m ⟨⟩
              exact hfits
            · exact .inr ⟨fun h => hfits (h.2.2 n rfl), addInteger_of_not_fits hfits⟩
        | none =>
            cases hfloating : value.isFloating with
            | true => exact .inr ⟨fun h => absurd h.2.1 nofun, add_of_floating hfloating _⟩
            | false =>
                rw [add_of_other hfloating hinteger, integersOf_concat_of_none hinteger]
                exact .inl ⟨⟨hexact, rfl, nofun⟩, rfl⟩
      · -- the total is a double already, and stays one
        rw [hx]
        exact .inr ⟨fun h => hexact h.1, add_double x value⟩

/-- **Values that add up to a whole number** have it as their sum, in the smallest value that holds it. -/
theorem value_of_exact (h : Exact values) :
    (values.foldl add (whole 0)).value = .ofInt64 (.ofInt (integersOf values).sum) := by
  rcases foldl_add values with ⟨-, hsum⟩ | ⟨hnot, -⟩
  · rw [hsum]
    rfl
  · exact absurd h hnot

/-- **Values that do not add up to a whole number** have a double as their sum. -/
theorem value_of_not_exact (h : ¬Exact values) : ∃ x, (values.foldl add (whole 0)).value = .double x := by
  rcases foldl_add values with ⟨hexact, -⟩ | ⟨-, x, hx⟩
  · exact absurd hexact h
  · refine ⟨x, ?_⟩
    rw [hx]
    rfl

/-- One value too many makes a double of the total, even if the next one would have brought it back. -/
example : ([.int64 Int64.maxValue, .int32 1, .int32 (-1)].foldl add (whole 0)).value.isFloating = true := by
  decide

example : [.int64 Int64.maxValue, .int32 (-1), .string "1", .int32 1].foldl add (whole 0) =
    whole Int64.maxValue.toInt := by
  rfl

/-- The sum of exact values is not changed by writing it down in 64 bits. -/
theorem Exact.isSmallest (h : Exact values) :
    (Value.ofInt64 (.ofInt (integersOf values).sum)).IsSmallest (integersOf values).sum := by
  have hfits := h.fits_sum
  have hsum : (Int64.ofInt (integersOf values).sum).toInt = (integersOf values).sum := by
    unfold Fits Double.int64Low Double.int64High at hfits
    exact Int64.toInt_ofInt_of_le (by omega) (by omega)
  have hsmallest := Value.isSmallest_ofInt64 (Int64.ofInt (integersOf values).sum)
  rwa [hsum] at hsmallest

/-! ## Order -/

theorem natAbs_sum_le (integers : List Int) : integers.sum.natAbs ≤ (integers.map Int.natAbs).sum := by
  induction integers with
  | nil => exact Nat.le_refl 0
  | cons n rest ih =>
      rw [List.sum_cons, List.map_cons, List.sum_cons]
      have hstep := Int.natAbs_add_le n rest.sum
      omega

/-- **Where the absolute values fit, every sum on the way does.** -/
theorem exact_of_sum_natAbs (hintegral : ∀ value ∈ values, value.isFloating = false)
    (h : ((integersOf values).map Int.natAbs).sum < 2 ^ 63) : Exact values where
  integral := hintegral
  fits first hfirst := by
    obtain ⟨rest, hrest⟩ := hfirst
    have hle := natAbs_sum_le first
    rw [← hrest, List.map_append, List.sum_append] at h
    unfold Fits Double.int64Low Double.int64High
    omega

end Total

/-! ## Sums -/

namespace Accumulator

open Total

/-- A sum over documents adds up what its expression comes to, where it comes to anything. -/
theorem value_tallied_sum (expression : Expression) (documents : List Fields) :
    ((sum expression).tallied documents).value =
      ((documents.filterMap expression.eval).foldl add (.whole 0)).value := by
  rw [tallied_sum]
  rfl

/-- **A sum is exact until it cannot be.** What a sum comes to is an integer exactly if no value is a floating
number and the first integers, however many of them, have a sum that fits 64 bits. Then it is the sum of them
all, as the smallest integer value that holds it; otherwise it is a double. So documents whose numbers are
integers with absolute values that add up to less than `2 ^ 63` have the same sum in any order. -/
theorem sum_exact_iff (expression : Expression) (documents : List Fields) :
    let values := documents.filterMap expression.eval
    let result := ((sum expression).tallied documents).value
    (result.integer?.isSome = true ↔ Exact values) ∧
    (Exact values → result.IsSmallest (integersOf values).sum) ∧
    (¬Exact values → ∃ x, result = .double x) ∧
    ∀ reordered : List Fields, documents.Perm reordered → (∀ value ∈ values, value.isFloating = false) →
      ((integersOf values).map Int.natAbs).sum < 2 ^ 63 →
      ((sum expression).tallied reordered).value = result := by
  intro values result
  have hresult : result = (values.foldl add (.whole 0)).value := value_tallied_sum expression documents
  rw [hresult]
  refine ⟨⟨?_, ?_⟩, ?_, value_of_not_exact, ?_⟩
  · -- a double is no integer, so an integer sum tells that the values are exact
    intro hsome
    by_contra hexact
    obtain ⟨x, hx⟩ := value_of_not_exact hexact
    rw [hx] at hsome
    exact nomatch hsome
  · intro hexact
    rw [value_of_exact hexact, Value.integer?_ofInt64]
    rfl
  · intro hexact
    rw [value_of_exact hexact]
    exact hexact.isSmallest
  · intro reordered hperm hintegral hbound
    have hvalues : values.Perm (reordered.filterMap expression.eval) := hperm.filterMap _
    have hintegers : (integersOf values).Perm (integersOf (reordered.filterMap expression.eval)) :=
      hvalues.filterMap _
    -- every beginning of the reordered integers is bounded by the sum of absolute values too
    have hexact : Exact (reordered.filterMap expression.eval) := by
      refine exact_of_sum_natAbs (fun value hm => hintegral value (hvalues.mem_iff.mpr hm)) ?_
      rwa [← (hintegers.map Int.natAbs).sum_eq]
    rw [value_tallied_sum, value_of_exact hexact, value_of_exact (exact_of_sum_natAbs hintegral hbound),
      hintegers.sum_eq]

end Accumulator
end Docstore

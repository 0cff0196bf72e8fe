import Docstore.Proofs.Sorting.Merge
import Docstore.Sorting.Short

/-!
# `Docstore.Proofs.Sorting.Short` — short lists are sorted

An element that is put into an ordered list from its end passes exactly the elements that it is less
than, so insertion sorts. Four elements are sorted by five comparisons as the merge of two ordered pairs,
and the halves of a short list by the merge from both ends.

## Contents
- **Insertion.** `sortsTo_insertFromEnd` is one step, `sortsTo_insertAll` all of them.
- **Halves.** `sortFour_eq_mergeFront`, `sortsTo_sortHalf`, `sortsTo_sortShort`.
-/

namespace Docstore.Sorting

variable {α : Type} {less : α → α → Bool} {among : α → Prop} (hless : WeakOrder less among)

/-! ## Insertion -/

include hless in
/-- One element sorts into an ordered list. -/
theorem sortsTo_insertFromEnd {x : α} {held : List α} (hx : among x) (hheld : ∀ y ∈ held, among y)
    (oheld : Ordered less held.reverse) :
    SortsTo less (held.reverse ++ [x]) (insertFromEnd less x held).reverse := by
  induction held with
  | nil => exact ⟨.refl [x], List.pairwise_singleton _ x⟩
  | cons last rest ih =>
      have hlast := hheld last List.mem_cons_self
      have hrest : ∀ y ∈ rest, among y := fun y hy => hheld y (List.mem_cons_of_mem last hy)
      rw [List.reverse_cons] at oheld
      obtain ⟨orest, hbelow⟩ := ordered_concat_iff.mp oheld
      rw [List.reverse_cons, insertFromEnd]
      split
      · next hxlast =>
          -- `x` passes `last` and goes on among the elements before it
          have hlater := ih hrest orest
          rw [List.reverse_cons]
          have hpass : Exchanges less ([last] ++ [x]) ([x] ++ [last]) := .swap hxlast []
          have hexchanges := hpass.append_left rest.reverse
          rw [← List.append_assoc, ← List.append_assoc] at hexchanges
          refine ⟨hexchanges.trans (hlater.exchanges.append_right [last]),
            ordered_concat_iff.mpr ⟨hlater.ordered, ?_⟩⟩
          intro y hy
          rcases List.mem_append.mp (hlater.perm.mem_iff.mp hy) with hy | hy
          · exact hbelow y hy
          · rw [List.mem_singleton.mp hy]
            exact hless.asymm hx hlast hxlast
      · next hxlast =>
          have hxlast : less x last = false := by simpa using hxlast
          rw [List.reverse_cons, List.reverse_cons]
          refine ⟨.refl _, ordered_concat_iff.mpr ⟨oheld, ?_⟩⟩
          intro y hy
          rcases List.mem_append.mp hy with hy | hy
          · have hamong := hrest y (List.mem_reverse.mp hy)
            exact hless.not_less_trans hamong hlast hx (hbelow y hy) hxlast
          · rw [List.mem_singleton.mp hy]
            exact hxlast

include hless in
/-- Elements sort into an ordered list one after the other. -/
theorem sortsTo_insertAll {sorted xs : List α} (hsorted : ∀ y ∈ sorted, among y)
    (hxs : ∀ x ∈ xs, among x) (osorted : Ordered less sorted) :
    SortsTo less (sorted ++ xs) (insertAll less sorted xs) := by
  induction xs generalizing sorted with
  | nil =>
      rw [List.append_nil, insertAll, List.foldl_nil, List.reverse_reverse]
      exact ⟨.refl sorted, osorted⟩
  | cons x xs ih =>
      have hx := hxs x List.mem_cons_self
      have hheld : ∀ y ∈ sorted.reverse, among y := fun y hy => hsorted y (List.mem_reverse.mp hy)
      have hstep := sortsTo_insertFromEnd hless hx hheld (by rw [List.reverse_reverse]; exact osorted)
      rw [List.reverse_reverse] at hstep
      have hamong : ∀ y ∈ (insertFromEnd less x sorted.reverse).reverse, among y := by
        intro y hy
        rcases List.mem_append.mp (hstep.perm.mem_iff.mp hy) with hy | hy
        · exact hsorted y hy
        · rw [List.mem_singleton.mp hy]
          exact hx
      have hlater := ih hamong (fun y hy => hxs y (List.mem_cons_of_mem x hy)) hstep.ordered
      have hfirst := hstep.exchanges.append_right xs
      rw [List.append_assoc, List.singleton_append] at hfirst
      rw [insertAll, List.reverse_reverse] at hlater
      exact .of_exchanges hfirst hlater

include hless in
/-- **Insertion sort** is a stable sort. -/
theorem sortsTo_insertionSort {xs : List α} (hxs : ∀ x ∈ xs, among x) :
    SortsTo less xs (insertionSort less xs) := by
  have h : SortsTo less ([] ++ xs) (insertAll less [] xs) :=
    sortsTo_insertAll hless (fun _ hx => absurd hx List.not_mem_nil) hxs .nil
  exact h

/-! ## Halves -/

include hless in
theorem sortsTo_sortTwo {x y : α} (hx : among x) (hy : among y) :
    SortsTo less [x, y] [(sortTwo less x y).1, (sortTwo less x y).2] := by
  unfold sortTwo
  split
  · next hyx => exact ⟨.swap hyx [], by simpa [Ordered] using hless.asymm hy hx hyx⟩
  · next hyx => exact ⟨.refl _, by simpa [Ordered] using hyx⟩

/-- Both elements of a pair that is put in order are among those it was made of. -/
theorem among_sortTwo (less : α → α → Bool) {x y : α} (hx : among x) (hy : among y) :
    among (sortTwo less x y).1 ∧ among (sortTwo less x y).2 := by
  unfold sortTwo
  split
  · exact ⟨hy, hx⟩
  · exact ⟨hx, hy⟩

theorem sortTwo_of_ordered {x y : α} (h : less y x = false) : sortTwo less x y = (x, y) := by
  rw [sortTwo, h]
  rfl

theorem mergeFront_pairs {a b c d : α} :
    mergeFront less [a, b] [c, d] =
      if less c a then
        c :: if less d a then [d, a, b] else a :: if less d b then [d, b] else [b, d]
      else a :: if less c b then c :: if less d b then [d, b] else [b, d] else [b, c, d] := by
  unfold mergeFront
  simp only [List.cons_merge_cons, List.merge_right, List.nil_merge]
  cases less c a <;> cases less d a <;> cases less d b <;> cases less c b <;> rfl

include hless in
/-- **Four elements are sorted by merging two pairs.** The lesser beginning is the least element and the
greater end the greatest; only the other two have to be compared once more. -/
theorem sortFour_eq_mergeFront {x y z w : α} (hx : among x) (hy : among y) (hz : among z)
    (hw : among w) :
    sortFour less x y z w =
      mergeFront less [(sortTwo less x y).1, (sortTwo less x y).2]
        [(sortTwo less z w).1, (sortTwo less z w).2] := by
  obtain ⟨ha, hb⟩ := among_sortTwo less hx hy
  obtain ⟨hc, hd⟩ := among_sortTwo less hz hw
  have hba := (sortsTo_sortTwo hless hx hy).ordered
  have hdc := (sortsTo_sortTwo hless hz hw).ordered
  unfold sortFour
  generalize sortTwo less x y = first at *
  generalize sortTwo less z w = second at *
  obtain ⟨a, b⟩ := first
  obtain ⟨c, d⟩ := second
  have hba : less b a = false := by simpa [Ordered] using hba
  have hdc : less d c = false := by simpa [Ordered] using hdc
  rw [mergeFront_pairs]
  cases hca : less c a <;> cases hdb : less d b
  · -- `a` is least and `d` greatest
    cases hcb : less c b <;> simp [sortTwo, hca, hdb, hcb]
  · -- `a` is least and `b` greatest, and between them `c` comes before `d`
    have hcb : less c b = true := hless.less_of_not_greater hc hd hb hdc hdb
    simp [sortTwo_of_ordered hdc, hca, hdb, hcb]
  · -- `c` is least and `d` greatest, and between them `a` comes before `b`
    have hda : less d a = false := hless.not_less_trans ha hb hd hba hdb
    simp [sortTwo_of_ordered hba, hca, hdb, hda]
  · -- `c` is least and `b` greatest
    cases hda : less d a <;> simp [sortTwo, hca, hdb, hda]

include hless in
theorem sortsTo_sortFour {x y z w : α} (hx : among x) (hy : among y) (hz : among z) (hw : among w) :
    SortsTo less [x, y, z, w] (sortFour less x y z w) := by
  have hxy := sortsTo_sortTwo hless hx hy
  have hzw := sortsTo_sortTwo hless hz hw
  rw [sortFour_eq_mergeFront hless hx hy hz hw]
  refine .of_exchanges (hxy.exchanges.append hzw.exchanges)
    (sortsTo_mergeFront hless ?_ ?_ hxy.ordered hzw.ordered)
  · simpa using among_sortTwo less hx hy
  · simpa using among_sortTwo less hz hw

include hless in
/-- The sort of half of a short list is stable, whether it begins with two elements or with four. -/
theorem sortsTo_sortHalf {four : Bool} {xs : List α} (hxs : ∀ x ∈ xs, among x) :
    SortsTo less xs (sortHalf less four xs) := by
  unfold sortHalf
  split
  · next x y z w rest =>
      have hfour : ∀ e ∈ [x, y, z, w], among e := fun e he => hxs e (List.mem_append_left rest he)
      have hfirst : SortsTo less [x, y, z, w] (sortFour less x y z w) :=
        sortsTo_sortFour hless (hxs x (by simp)) (hxs y (by simp)) (hxs z (by simp)) (hxs w (by simp))
      refine .of_exchanges (hfirst.exchanges.append_right rest) (sortsTo_insertAll hless ?_ ?_
        hfirst.ordered)
      · exact fun e he => hfour e (hfirst.perm.mem_iff.mp he)
      · exact fun e he => hxs e (List.mem_append_right [x, y, z, w] he)
  · exact sortsTo_insertionSort hless hxs

include hless in
/-- **Sorting by halves sorts.** -/
theorem sortsTo_sortShort {xs : List α} (hxs : ∀ x ∈ xs, among x) :
    SortsTo less xs (sortShort less xs) := by
  unfold sortShort
  have hleft : SortsTo less (xs.take (xs.length / 2))
      (sortHalf less (decide (8 ≤ xs.length)) (xs.take (xs.length / 2))) :=
    sortsTo_sortHalf hless fun x hx => hxs x (List.mem_of_mem_take hx)
  have hright : SortsTo less (xs.drop (xs.length / 2))
      (sortHalf less (decide (8 ≤ xs.length)) (xs.drop (xs.length / 2))) :=
    sortsTo_sortHalf hless fun x hx => hxs x (List.mem_of_mem_drop hx)
  have hleftAmong := fun x hx => hxs x (List.mem_of_mem_take (hleft.perm.mem_iff.mp hx))
  have hrightAmong := fun x hx => hxs x (List.mem_of_mem_drop (hright.perm.mem_iff.mp hx))
  have hleftLength := hleft.length_eq
  have hrightLength := hright.length_eq
  rw [List.length_take] at hleftLength
  rw [List.length_drop] at hrightLength
  rw [mergeEnds_eq_mergeFront hless hleftAmong hrightAmong hleft.ordered hright.ordered (by omega)
    (by omega)]
  have hhalves := hleft.exchanges.append hright.exchanges
  rw [List.take_append_drop] at hhalves
  exact .of_exchanges hhalves
    (sortsTo_mergeFront hless hleftAmong hrightAmong hleft.ordered hright.ordered)

end Docstore.Sorting

import Docstore.Proofs.Sorting.Runs
import Docstore.Sorting.Stable

/-!
# `Docstore.Proofs.Sorting.Stable` — stable sorting sorts

Splitting a list at a pivot makes exchanges at most, and then the two parts are sorted on their own. The
pivot is some element of the list, no matter which; if it turns out that none is less, the elements equal
to it are set aside. With that every way that `sortStable` may take ends in the one list that the
elements sort to.

## Contents
- **Pivot.** `getElem?_of_representative?`.
- **Partition.** `splitAround_eq`, `sortsTo_partitionSort`.
- **Sorting.** `sortsTo_sortStable`.
-/

namespace Docstore.Sorting

variable {α : Type} {less : α → α → Bool} {among : α → Prop}

/-! ## Pivot -/

/-- The median of three elements is one of them. -/
theorem medianOfThree_cases (less : α → α → Bool) (a b c : Nat × α) :
    medianOfThree less a b c = a ∨ medianOfThree less a b c = b ∨ medianOfThree less a b c = c := by
  unfold medianOfThree
  dsimp only
  split
  · split
    · exact .inr (.inl rfl)
    · exact .inr (.inr rfl)
  · exact .inl rfl

/-- A representative stands at its place in the list. -/
theorem getElem?_of_representative? {xs : Array α} {start count place : Nat} {pivot : α}
    (h : representative? less xs start count = some (place, pivot)) : xs[place]? = some pivot := by
  fun_induction representative? less xs start count generalizing place pivot with
  | case1 start count hshort =>
      obtain ⟨x, hx, heq⟩ := Option.map_eq_some_iff.mp h
      injection heq with hplace hpivot
      rw [← hplace, ← hpivot]
      exact hx
  | case2 start count hlong eighth iha ihb =>
      rename_i ihc
      simp only [Option.bind_eq_bind, Option.bind_eq_some_iff] at h
      obtain ⟨a, ha, b, hb, c, hc, heq⟩ := h
      have hmedian := medianOfThree_cases less a b c
      rw [Option.some.inj heq] at hmedian
      rcases hmedian with rfl | rfl | rfl
      · exact iha ha
      · exact ihb hb
      · exact ihc hc

/-! ## Partition -/

/-- Splitting at a pivot that passes the test like any other element keeps each part in its old order. -/
theorem splitAround_eq (test : α → Bool) {pivot : α} {passes : Bool} (h : test pivot = passes)
    (left right : List α) :
    splitAround test passes pivot left right =
      ((left ++ pivot :: right).filter test, (left ++ pivot :: right).filter fun x => !test x) := by
  unfold splitAround
  simp only [List.partition_eq_filter_filter, List.filter_append]
  cases passes with
  | false =>
      rw [List.filter_cons_of_neg (by simp [h]), List.filter_cons_of_pos (by simp [h])]
      rfl
  | true =>
      rw [List.filter_cons_of_pos h, List.filter_cons_of_neg (by simp [h])]
      rfl

section

variable (hless : WeakOrder less among)

include hless in
/-- **Two parts are sorted on their own** if the elements of the first are less than those of the
second. -/
theorem sortsTo_parts {test : α → Bool} {xs ys zs : List α} (hxs : ∀ x ∈ xs, among x)
    (hparts : ∀ x ∈ xs, test x = false → ∀ y ∈ xs, test y = true → less y x = true)
    (hys : SortsTo less (xs.filter test) ys) (hzs : SortsTo less (xs.filter fun x => !test x) zs) :
    SortsTo less xs (ys ++ zs) := by
  refine ⟨(Exchanges.partition hparts).trans (hys.exchanges.append hzs.exchanges),
    ordered_append_iff.mpr ⟨hys.ordered, hzs.ordered, ?_⟩⟩
  intro y hy z hz
  obtain ⟨hy, hyt⟩ := List.mem_filter.mp (hys.perm.mem_iff.mp hy)
  obtain ⟨hz, hzt⟩ := List.mem_filter.mp (hzs.perm.mem_iff.mp hz)
  exact hless.asymm (hxs y hy) (hxs z hz) (hparts z hz (by simpa using hzt) y hy hyt)

include hless in
/-- The elements that are not greater than a least one are equal, so they are in order. -/
theorem ordered_filter_of_least {pivot : α} {xs : List α} (hpivot : among pivot)
    (hxs : ∀ x ∈ xs, among x) (hleast : ∀ x ∈ xs, less x pivot = false) :
    Ordered less (xs.filter fun x => !less pivot x) := by
  refine List.pairwise_of_forall_mem_list ?_
  intro x hx y hy
  obtain ⟨hx, hpx⟩ := List.mem_filter.mp hx
  obtain ⟨hy, -⟩ := List.mem_filter.mp hy
  exact hless.not_less_trans (hxs x hx) hpivot (hxs y hy) (by simpa using hpx) (hleast y hy)

include hless in
/-- A least element divides a list into the elements equal to it and the greater ones. -/
theorem sortsTo_around_least {pivot : α} {xs greater : List α} (hpivot : among pivot)
    (hxs : ∀ x ∈ xs, among x) (hleast : ∀ x ∈ xs, less x pivot = false)
    (hgreater : SortsTo less (xs.filter fun x => !!less pivot x) greater) :
    SortsTo less xs ((xs.filter fun x => !less pivot x) ++ greater) := by
  refine sortsTo_parts hless hxs ?_
    ⟨.refl _, ordered_filter_of_least hless hpivot hxs hleast⟩ hgreater
  intro x hx hxt y hy hyt
  exact hless.less_of_not_greater (hxs y hy) hpivot (hxs x hx) (by simpa using hyt)
    (by simpa using hxt)

include hless in
/-- Any element divides a list into the elements less than it and the others. -/
theorem sortsTo_around {pivot : α} {xs before others : List α} (hpivot : among pivot)
    (hxs : ∀ x ∈ xs, among x) (hbefore : SortsTo less (xs.filter (less · pivot)) before)
    (hothers : SortsTo less (xs.filter fun x => !less x pivot) others) :
    SortsTo less xs (before ++ others) := by
  refine sortsTo_parts hless hxs ?_ hbefore hothers
  intro x hx hxt y hy hyt
  exact hless.less_of_not_less (hxs y hy) hpivot (hxs x hx) hyt hxt

include hless in
/-- Partition stops at a pivot that is no greater than the floor, or that no element is less than; either
way it is a least one. -/
theorem least_of_stop {floor? : Option α} {pivot : α} {xs : List α} (hpivot : among pivot)
    (hxs : ∀ x ∈ xs, among x)
    (hfloor : ∀ floor, floor? = some floor → among floor ∧ ∀ x ∈ xs, less x floor = false)
    (hstop : (floor?.any fun floor => !less floor pivot) || (xs.filter (less · pivot)).isEmpty) :
    ∀ x ∈ xs, less x pivot = false := by
  intro x hx
  rcases Bool.or_eq_true_iff.mp hstop with h | h
  · obtain ⟨floor, hsome, hnot⟩ := (Option.any_eq_true _ _).mp h
    obtain ⟨hamong, hbelow⟩ := hfloor floor hsome
    exact hless.not_less_trans hpivot hamong (hxs x hx) (by simpa using hnot) (hbelow x hx)
  · have hnone := List.filter_eq_nil_iff.mp (List.isEmpty_iff.mp h) x hx
    simpa using hnone

include hless in
/-- **Sorting by partition sorts,** if no element is less than `floor?`. -/
theorem sortsTo_partitionSort (limit : Nat) {floor? : Option α} {xs : List α}
    (hxs : ∀ x ∈ xs, among x)
    (hfloor : ∀ floor, floor? = some floor → among floor ∧ ∀ x ∈ xs, less x floor = false) :
    SortsTo less xs (partitionSort less limit floor? xs) := by
  induction limit generalizing floor? xs with
  -- the limit is used up: what is still long is sorted by runs
  | zero =>
      unfold partitionSort
      split
      · exact sortsTo_sortShort hless hxs
      · exact sortsTo_sortEagerly hless hxs
  | succ limit ih =>
      unfold partitionSort
      split
      · exact sortsTo_sortShort hless hxs
      · cases hrepresentative : representative? less xs.toArray 0 xs.length with
        | none => exact sortsTo_sortEagerly hless hxs
        | some found =>
            obtain ⟨place, pivot⟩ := found
            have hplace : xs[place]? = some pivot := by
              rw [← List.getElem?_toArray]
              exact getElem?_of_representative? hrepresentative
            obtain ⟨hlt, hget⟩ := List.getElem?_eq_some_iff.mp hplace
            -- the pivot is an element of the list, and the two scans go around its place
            have hsplit : xs.take place ++ pivot :: xs.drop (place + 1) = xs := by
              rw [← hget, List.getElem_cons_drop, List.take_append_drop]
            have hpivot : among pivot := hxs pivot (hget ▸ List.getElem_mem hlt)
            have hself := hless.irrefl hpivot
            have hfilter : ∀ test : α → Bool, ∀ x ∈ xs.filter test, among x := fun test x hx =>
              hxs x ((List.mem_filter.mp hx).1)
            dsimp only
            rw [splitAround_eq (less · pivot) hself, splitAround_eq (fun x => !less pivot x)
              (by rw [hself]; rfl), hsplit]
            dsimp only
            split
            · -- no element is less than the pivot: only those that are greater are left to sort
              next hstop =>
                have hleast := least_of_stop hless hpivot hxs hfloor (by simpa using hstop)
                exact sortsTo_around_least hless hpivot hxs hleast
                  (ih (hfilter _) fun floor h => absurd h (by simp))
            · -- both sides are sorted by themselves; the pivot is the floor of the second
              refine sortsTo_around hless hpivot hxs (ih (hfilter _) ?_) (ih (hfilter _) ?_)
              · intro floor h
                obtain ⟨hamong, hbelow⟩ := hfloor floor h
                exact ⟨hamong, fun x hx => hbelow x ((List.mem_filter.mp hx).1)⟩
              · intro floor h
                obtain rfl := Option.some.inj h
                exact ⟨hpivot, fun x hx => by simpa using (List.mem_filter.mp hx).2⟩

end

/-! ## Sorting -/

section

variable (hless : WeakOrder less among)

include hless in
/-- **Stable sorting sorts,** whichever way the length and the order of the list make it take. -/
theorem sortsTo_sortStable {xs : List α} (hxs : ∀ x ∈ xs, among x) :
    SortsTo less xs (sortStable less xs) := by
  unfold sortStable
  split
  · exact sortsTo_insertionSort hless hxs
  · refine sortsTo_sortRuns hless ?_ hxs
    intro piece hpiece
    exact sortsTo_partitionSort hless _ hpiece fun floor h => absurd h (by simp)

end

end Docstore.Sorting

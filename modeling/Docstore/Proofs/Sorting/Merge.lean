import Docstore.Proofs.Sorting.Order
import Docstore.Sorting.Merge

/-!
# `Docstore.Proofs.Sorting.Merge` — merging sorts

Two ordered lists in a row sort to their merge, from whichever end it is made. Merging from the front is
looked at element by element; merging from the back is merging from the front read backwards. Merging
from both ends needs no order argument of its own: what it places at the front is the beginning of the
one merge, what it places at the back is the end of the same list, and at most one element is left.

## Contents
- **One end.** `sortsTo_mergeFront`, `sortsTo_mergeBack`, `sortsTo_merge`.
- **Both ends.** `merge_eq_mergeSome` and `mergeSome_split` say what some steps of a merge do;
  `mergeEnds_eq_mergeFront`.
-/

namespace Docstore.Sorting

variable {α : Type} {less : α → α → Bool} {among : α → Prop}

/-! ## One end -/

section

variable (hless : WeakOrder less among)

include hless in
/-- **Two ordered lists sort to their merge.** -/
theorem sortsTo_mergeFront {xs ys : List α} (hxs : ∀ x ∈ xs, among x) (hys : ∀ y ∈ ys, among y)
    (oxs : Ordered less xs) (oys : Ordered less ys) :
    SortsTo less (xs ++ ys) (mergeFront less xs ys) := by
  unfold mergeFront
  induction xs generalizing ys with
  | nil =>
      rw [List.nil_append, List.nil_merge]
      exact ⟨.refl ys, oys⟩
  | cons x xs ihx =>
      have hx := hxs x List.mem_cons_self
      have hxs' := fun z hz => hxs z (List.mem_cons_of_mem x hz)
      obtain ⟨hxleast, oxs'⟩ := List.pairwise_cons.mp oxs
      induction ys with
      | nil =>
          rw [List.append_nil, List.merge_right]
          exact ⟨.refl (x :: xs), oxs⟩
      | cons y ys ihy =>
          have hy := hys y List.mem_cons_self
          have hys' := fun z hz => hys z (List.mem_cons_of_mem y hz)
          obtain ⟨hyleast, oys'⟩ := List.pairwise_cons.mp oys
          cases hyx : less y x with
          | false =>
              have hlater := ihx hxs' hys oxs' oys
              rw [List.cons_merge_cons_pos _ _ _ (by simp [hyx])]
              refine ⟨hlater.exchanges.cons x, List.pairwise_cons.mpr ⟨?_, hlater.ordered⟩⟩
              intro z hz
              rcases List.mem_merge.mp hz with hz | hz
              · exact hxleast z hz
              · rcases List.mem_cons.mp hz with rfl | hz
                · exact hyx
                · exact hless.not_less_trans hx hy (hys' z hz) hyx (hyleast z hz)
          | true =>
              have hlater := ihy hys' oys'
              rw [List.cons_merge_cons_neg _ _ _ (by simp [hyx])]
              -- `y` is less than `x` and so than all that follow `x`
              have hfront : ∀ z ∈ x :: xs, less y z = true := by
                intro z hz
                rcases List.mem_cons.mp hz with rfl | hz
                · exact hyx
                · exact hless.less_of_not_less hy hx (hxs' z hz) hyx (hxleast z hz)
              refine ⟨(Exchanges.move_front hfront ys).trans (hlater.exchanges.cons y),
                List.pairwise_cons.mpr ⟨?_, hlater.ordered⟩⟩
              intro z hz
              rcases List.mem_merge.mp hz with hz | hz
              · exact hless.asymm hy (hxs z hz) (hfront z hz)
              · exact hyleast z hz

include hless in
theorem sortsTo_mergeBack {xs ys : List α} (hxs : ∀ x ∈ xs, among x) (hys : ∀ y ∈ ys, among y)
    (oxs : Ordered less xs) (oys : Ordered less ys) :
    SortsTo less (xs ++ ys) (mergeBack less xs ys) := by
  have hmirror : SortsTo (fun x y => less y x) (ys.reverse ++ xs.reverse)
      (mergeFront (fun x y => less y x) ys.reverse xs.reverse) :=
    sortsTo_mergeFront hless.mirror (fun y hy => hys y (List.mem_reverse.mp hy))
      (fun x hx => hxs x (List.mem_reverse.mp hx)) (ordered_mirror.mpr oys) (ordered_mirror.mpr oxs)
  have hback := hmirror.mirror
  rw [List.reverse_append, List.reverse_reverse, List.reverse_reverse] at hback
  exact hback

include hless in
theorem sortsTo_merge {xs ys : List α} (hxs : ∀ x ∈ xs, among x) (hys : ∀ y ∈ ys, among y)
    (oxs : Ordered less xs) (oys : Ordered less ys) : SortsTo less (xs ++ ys) (merge less xs ys) := by
  unfold merge
  split
  · exact sortsTo_mergeFront hless hxs hys oxs oys
  · exact sortsTo_mergeBack hless hxs hys oxs oys

end

/-! ## Both ends -/

/-- Some steps of a merge are the beginning of it, and the rest is the merge of what is left. -/
theorem merge_eq_mergeSome (goesFirst : α → α → Bool) (count : Nat) (xs ys : List α) :
    xs.merge ys goesFirst =
      (mergeSome goesFirst count xs ys).1 ++
        (mergeSome goesFirst count xs ys).2.1.merge (mergeSome goesFirst count xs ys).2.2
          goesFirst := by
  fun_induction mergeSome goesFirst count xs ys with
  | case1 count x xs y ys hfirst merged rest hrest ih =>
      rw [hrest] at ih
      rw [List.cons_merge_cons_pos _ _ _ hfirst, ih]
      rfl
  | case2 count x xs y ys hfirst merged rest hrest ih =>
      rw [hrest] at ih
      rw [List.cons_merge_cons_neg _ _ _ hfirst, ih]
      rfl
  | case3 => rfl

/-- Some steps of a merge from the back are the end of it, read backwards. -/
theorem mergeBack_eq_mergeSome (less : α → α → Bool) (count : Nat) (xs ys : List α) :
    mergeBack less xs ys =
      ((mergeSome (fun y x => !less y x) count ys.reverse xs.reverse).2.1.merge
        (mergeSome (fun y x => !less y x) count ys.reverse xs.reverse).2.2
          fun y x => !less y x).reverse ++
        (mergeSome (fun y x => !less y x) count ys.reverse xs.reverse).1.reverse := by
  rw [mergeBack, merge_eq_mergeSome (fun y x => !less y x) count, List.reverse_append]

/-- Every step of a merge places one element, as long as neither list is used up. -/
theorem length_mergeSome (goesFirst : α → α → Bool) {count : Nat} {xs ys : List α}
    (hxs : count ≤ xs.length) (hys : count ≤ ys.length) :
    (mergeSome goesFirst count xs ys).1.length = count := by
  fun_induction mergeSome goesFirst count xs ys with
  | case1 count x xs y ys hfirst merged rest hrest ih =>
      rw [hrest] at ih
      rw [List.length_cons] at hxs
      rw [List.length_cons, ih (by omega) (by omega)]
  | case2 count x xs y ys hfirst merged rest hrest ih =>
      rw [hrest] at ih
      rw [List.length_cons] at hys
      rw [List.length_cons, ih (by omega) (by omega)]
  | case3 count xs ys hstop =>
      cases count with
      | zero => rfl
      | succ count =>
          obtain ⟨x, xs, rfl⟩ := List.exists_cons_of_length_pos (by omega : 0 < xs.length)
          obtain ⟨y, ys, rfl⟩ := List.exists_cons_of_length_pos (by omega : 0 < ys.length)
          exact absurd rfl (hstop count x xs y ys rfl rfl)

/-- Some steps of a merge place the beginnings of the two lists. -/
theorem mergeSome_split (goesFirst : α → α → Bool) (count : Nat) (xs ys : List α) :
    ∃ xsPlaced ysPlaced, xs = xsPlaced ++ (mergeSome goesFirst count xs ys).2.1 ∧
      ys = ysPlaced ++ (mergeSome goesFirst count xs ys).2.2 ∧
      (mergeSome goesFirst count xs ys).1.Perm (xsPlaced ++ ysPlaced) := by
  fun_induction mergeSome goesFirst count xs ys with
  | case1 count x xs y ys hfirst merged rest hrest ih =>
      rw [hrest] at ih
      obtain ⟨xsPlaced, ysPlaced, hxs, hys, hperm⟩ := ih
      exact ⟨x :: xsPlaced, ysPlaced, by rw [List.cons_append, ← hxs], hys, hperm.cons x⟩
  | case2 count x xs y ys hfirst merged rest hrest ih =>
      rw [hrest] at ih
      obtain ⟨xsPlaced, ysPlaced, hxs, hys, hperm⟩ := ih
      refine ⟨xsPlaced, y :: ysPlaced, hxs, by rw [List.cons_append, ← hys], ?_⟩
      exact (hperm.cons y).trans List.perm_middle.symm
  | case3 count xs ys hstop => exact ⟨[], [], rfl, rfl, .refl []⟩

/-- A list whose beginning and end do not overlap has the rest between them. -/
theorem eq_append_middle {xs front after before back : List α} (h : xs = front ++ after)
    (h' : xs = before ++ back) (hspan : xs.length ≤ after.length + before.length) :
    xs = front ++ (after.take (after.length + before.length - xs.length) ++ back) := by
  have hlength : xs.length = front.length + after.length := by rw [h, List.length_append]
  rcases List.append_eq_append_iff.mp (h ▸ h') with ⟨middle, hbefore, hafter⟩ | ⟨excess, hfront, hback⟩
  · have hmiddle : after.length + before.length - xs.length = middle.length := by
      rw [hlength, hbefore, List.length_append]
      omega
    rw [hmiddle, hafter, List.take_left, ← hafter]
    exact h
  · -- nothing of the beginning lies past the start of the end
    have hexcess : excess = [] := by
      have := congrArg List.length hfront
      rw [List.length_append] at this
      exact List.eq_nil_of_length_eq_zero (by omega)
    have hnone : after.length + before.length - xs.length = 0 := by
      rw [hlength, hfront, hexcess, List.append_nil]
      omega
    rw [hnone, List.take_zero, List.nil_append, hback, hexcess]
    exact h

/-- A rearrangement of at most one element is that element. -/
theorem eq_of_perm_of_short {xs ys : List α} (h : xs.Perm ys) (hshort : xs.length ≤ 1) : ys = xs := by
  match xs, hshort with
  | [], _ => exact List.nil_perm.mp h
  | [x], _ => exact List.singleton_perm.mp h |>.symm

/-- Of two lists all but one element has been placed in a list of all elements, at the front and at the
back. Then what is left of the two lists belongs between. -/
theorem placed_append_left {xs ys all front after before back : List α}
    {xsFirst xsMiddle xsLast ysFirst ysMiddle ysLast : List α} (hall : all.Perm (xs ++ ys))
    (hfront : all = front ++ after) (hback : all = before ++ back)
    (hxs : xs = xsFirst ++ (xsMiddle ++ xsLast)) (hys : ys = ysFirst ++ (ysMiddle ++ ysLast))
    (hfirst : front.Perm (xsFirst ++ ysFirst)) (hlast : back.Perm (ysLast ++ xsLast))
    (hspan : all.length ≤ after.length + before.length)
    (hshort : after.length + before.length ≤ all.length + 1) :
    front ++ xsMiddle ++ ysMiddle ++ back = all := by
  have hmiddle := eq_append_middle hfront hback hspan
  generalize hgap : after.take (after.length + before.length - all.length) = gap at hmiddle
  have hgapLength : gap.length ≤ 1 := by
    rw [← hgap, List.length_take]
    omega
  have hleft : gap.Perm (xsMiddle ++ ysMiddle) := by
    classical
    rw [List.perm_iff_count]
    intro z
    have hcount := hall.count_eq z
    have hcountFirst := hfirst.count_eq z
    have hcountLast := hlast.count_eq z
    rw [hmiddle, hxs, hys] at hcount
    simp only [List.count_append] at hcount hcountFirst hcountLast ⊢
    omega
  rw [hmiddle, List.append_assoc front, eq_of_perm_of_short hleft hgapLength, List.append_assoc]

section

variable (hless : WeakOrder less among)

include hless in
/-- **Merging from both ends is merging,** if the second list is as long as the first one or one element
longer. -/
theorem mergeEnds_eq_mergeFront {xs ys : List α} (hxs : ∀ x ∈ xs, among x) (hys : ∀ y ∈ ys, among y)
    (oxs : Ordered less xs) (oys : Ordered less ys) (hlow : xs.length ≤ ys.length)
    (hhigh : ys.length ≤ xs.length + 1) : mergeEnds less xs ys = mergeFront less xs ys := by
  have hsorts := sortsTo_mergeFront hless hxs hys oxs oys
  have hsame : mergeFront less xs ys = mergeBack less xs ys :=
    hsorts.unique (sortsTo_mergeBack hless hxs hys oxs oys)
  have hlength : (mergeFront less xs ys).length = xs.length + ys.length := by
    rw [hsorts.length_eq, List.length_append]
  -- what is placed from the front begins the merge
  have hfront : mergeFront less xs ys = _ :=
    merge_eq_mergeSome (fun x y => !less y x) xs.length xs ys
  have hfrontLength : (mergeSome (fun x y => !less y x) xs.length xs ys).1.length = xs.length :=
    length_mergeSome _ (Nat.le_refl _) hlow
  obtain ⟨xsFirst, ysFirst, hxsFirst, hysFirst, hfirst⟩ :=
    mergeSome_split (fun x y => !less y x) xs.length xs ys
  -- what is placed from the back ends it
  have hback := hsame.trans (mergeBack_eq_mergeSome less xs.length xs ys)
  have hbackLength :
      (mergeSome (fun y x => !less y x) xs.length ys.reverse xs.reverse).1.length = xs.length :=
    length_mergeSome _ (by rw [List.length_reverse]; exact hlow)
      (Nat.le_of_eq List.length_reverse.symm)
  obtain ⟨ysLast, xsLast, hysLast, hxsLast, hlast⟩ :=
    mergeSome_split (fun y x => !less y x) xs.length ys.reverse xs.reverse
  unfold mergeEnds
  generalize mergeSome (fun x y => !less y x) xs.length xs ys = placed at *
  obtain ⟨front, xsAfter, ysAfter⟩ := placed
  generalize mergeSome (fun y x => !less y x) xs.length ys.reverse xs.reverse = placed at *
  obtain ⟨back, ysBefore, xsBefore⟩ := placed
  dsimp only at *
  split
  · next hspans =>
      obtain ⟨hxsSpan, hysSpan⟩ := hspans
      have hxsMiddle := eq_append_middle hxsFirst (List.reverse_eq_append_iff.mp hxsLast)
        (by rw [List.length_reverse]; exact hxsSpan)
      have hysMiddle := eq_append_middle hysFirst (List.reverse_eq_append_iff.mp hysLast)
        (by rw [List.length_reverse]; exact hysSpan)
      rw [List.length_reverse] at hxsMiddle hysMiddle
      have hafter := congrArg List.length hfront
      have hbefore := congrArg List.length hback
      have hbackLength' : back.reverse.length = xs.length :=
        List.length_reverse.trans hbackLength
      rw [List.length_append, hlength] at hafter hbefore
      have hlast' : back.reverse.Perm (ysLast.reverse ++ xsLast.reverse) :=
        (List.reverse_perm back).trans
          (hlast.trans ((List.reverse_perm ysLast).symm.append (List.reverse_perm xsLast).symm))
      exact placed_append_left hsorts.perm hfront hback hxsMiddle hysMiddle hfirst hlast'
        (by rw [hlength]; omega) (by rw [hlength]; omega)
  · rfl

end

end Docstore.Sorting

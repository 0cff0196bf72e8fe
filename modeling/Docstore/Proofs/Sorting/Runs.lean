import Docstore.Proofs.Sorting.Short
import Docstore.Sorting.Runs

/-!
# `Docstore.Proofs.Sorting.Runs` — merging runs sorts

Cutting a list into runs makes exchanges at most, and so does every merge of two neighbouring runs. What
is kept from one step to the next is that the runs in a row are the list after some exchanges, and that
those marked as sorted are ordered (`Run.Valid`). At which depth two runs are merged plays no part: any
order of merging ends in the same list.

## Contents
- **Runs.** `pairwise_stretch`, `sortsTo_orderedBeginning`, `firstRun_spec`, `splitRuns_spec`.
- **Merging.** One merge, `Run.Valid.join`; some merges, `collapse_spec`; all of them,
  `mergeRuns_spec`.
- **Sorting.** `sortsTo_sortRuns`, `sortsTo_sortEagerly`.
-/

namespace Docstore.Sorting

variable {α : Type} {less : α → α → Bool} {among : α → Prop}

/-! ## Runs -/

theorem stretch_initial (less : α → α → Bool) (falling : Bool) (previous : α) (xs : List α) :
    stretch less falling previous xs <+: xs := by
  induction xs generalizing previous with
  | nil => exact List.prefix_rfl
  | cons x rest ih =>
      rw [stretch]
      split
      · exact List.prefix_cons_inj x |>.mpr (ih x)
      · exact List.nil_prefix

section

variable (hless : WeakOrder less among)

include hless in
/-- A stretch goes on as it began: each element is less than all before it, or none is. -/
theorem pairwise_stretch {falling : Bool} {previous : α} {xs : List α} (hprevious : among previous)
    (hxs : ∀ x ∈ xs, among x) :
    (previous :: stretch less falling previous xs).Pairwise fun x y => less y x = falling := by
  induction xs generalizing previous with
  | nil => exact List.pairwise_singleton _ previous
  | cons x rest ih =>
      have hx := hxs x List.mem_cons_self
      have hrest : ∀ z ∈ rest, among z := fun z hz => hxs z (List.mem_cons_of_mem x hz)
      rw [stretch]
      split
      · next hstep =>
          have hstep : less x previous = falling := by simpa using hstep
          have hlater := ih hx hrest
          refine List.pairwise_cons.mpr ⟨?_, hlater⟩
          intro z hz
          rcases List.mem_cons.mp hz with rfl | hz
          · exact hstep
          · have hzx := (List.pairwise_cons.mp hlater).1 z hz
            have hzamong := hrest z ((stretch_initial less falling x rest).mem hz)
            cases falling with
            | false => exact hless.not_less_trans hprevious hx hzamong hstep hzx
            | true => exact hless.trans hzamong hx hprevious hzx hstep
      · exact List.pairwise_singleton _ previous

theorem orderedBeginning_pos (less : α → α → Bool) {xs : List α} (hxs : 0 < xs.length) :
    0 < (orderedBeginning less xs).length := by
  unfold orderedBeginning
  split
  · next x y rest => cases less y x <;> simp
  · exact hxs

include hless in
/-- The ordered beginning of a list is a beginning of it, sorted. -/
theorem sortsTo_orderedBeginning {xs : List α} (hxs : ∀ x ∈ xs, among x) :
    SortsTo less (xs.take (orderedBeginning less xs).length) (orderedBeginning less xs) := by
  unfold orderedBeginning
  split
  · next x y rest =>
      dsimp only
      have hx := hxs x List.mem_cons_self
      have hrest : ∀ z ∈ y :: rest, among z := fun z hz => hxs z (List.mem_cons_of_mem x hz)
      -- neighbours all stand to each other as the first two do
      have hpairs : (x :: stretch less (less y x) x (y :: rest)).Pairwise fun z w =>
          less w z = less y x := pairwise_stretch hless hx hrest
      have hbeginning : x :: stretch less (less y x) x (y :: rest) <+: x :: y :: rest :=
        List.prefix_cons_inj x |>.mpr (stretch_initial less (less y x) x (y :: rest))
      generalize x :: stretch less (less y x) x (y :: rest) = items at *
      have hitems := (List.prefix_iff_eq_take.mp hbeginning).symm
      have hamong : ∀ z ∈ items, among z := fun z hz => hxs z (hbeginning.mem hz)
      cases hyx : less y x with
      -- a falling stretch is turned around, which exchanges no equal elements
      | true =>
          rw [hyx] at hpairs
          rw [if_pos rfl, List.length_reverse, hitems]
          refine ⟨.reverse_falling hpairs, List.pairwise_reverse.mpr ?_⟩
          exact hpairs.imp_of_mem fun hz hw hwz => hless.asymm (hamong _ hw) (hamong _ hz) hwz
      | false =>
          rw [hyx] at hpairs
          rw [if_neg (by simp), hitems]
          exact ⟨.refl items, hpairs⟩
  · -- a list of one element, or of none, is in order
    next hshort =>
      rw [List.take_length]
      refine ⟨.refl _, ?_⟩
      match xs, hshort with
      | [], _ => exact .nil
      | [x], _ => exact List.pairwise_singleton _ x
      | x :: y :: rest, hshort => exact absurd rfl (hshort x y rest)

end

/-- A run of elements of a set, ordered if it is marked as sorted. -/
structure Run.Valid (less : α → α → Bool) (among : α → Prop) (run : Run α) : Prop where
  among : ∀ x ∈ run.items, among x
  ordered : run.isSorted = true → Ordered less run.items

section

variable (hless : WeakOrder less among)

include hless in
/-- The first run is a beginning of the list after some exchanges, and it is not empty. -/
theorem firstRun_spec (eager : Bool) (good : Nat) {xs : List α} (hxs : ∀ x ∈ xs, among x)
    (hpos : 0 < xs.length) :
    ∃ piece rest, xs = piece ++ rest ∧ 0 < piece.length ∧
      Exchanges less piece (firstRun less eager good xs).items ∧
      (firstRun less eager good xs).Valid less among := by
  have hbeginning := sortsTo_orderedBeginning hless hxs
  have hbeginningPos := orderedBeginning_pos less hpos
  have htake : ∀ count, ∀ x ∈ xs.take count, among x := fun count x hx =>
    hxs x (List.mem_of_mem_take hx)
  unfold firstRun
  dsimp only
  split
  · refine ⟨_, _, (List.take_append_drop (orderedBeginning less xs).length xs).symm, ?_,
      hbeginning.exchanges, ?_, fun _ => hbeginning.ordered⟩
    · rw [← hbeginning.length_eq]
      exact hbeginningPos
    · exact fun x hx => htake _ x (hbeginning.perm.mem_iff.mp hx)
  · next hgood =>
      split
      · have hshort : SortsTo less (xs.take maxShort) (sortShort less (xs.take maxShort)) :=
          sortsTo_sortShort hless (htake maxShort)
        refine ⟨_, _, (List.take_append_drop maxShort xs).symm, ?_, hshort.exchanges, ?_,
          fun _ => hshort.ordered⟩
        · rw [List.length_take]
          exact Nat.lt_min.mpr ⟨by decide, hpos⟩
        · exact fun x hx => htake _ x (hshort.perm.mem_iff.mp hx)
      · -- the ordered beginning is not empty, so `good` is positive
        refine ⟨_, _, (List.take_append_drop good xs).symm, ?_, .refl _, htake good, ?_⟩
        · rw [List.length_take]
          omega
        · exact fun h => absurd h (by simp)

include hless in
/-- **Cutting a list into runs makes exchanges at most.** -/
theorem splitRuns_spec (eager : Bool) (good : Nat) {xs : List α} (hxs : ∀ x ∈ xs, among x) :
    Exchanges less xs ((splitRuns less eager good xs).flatMap Run.items) ∧
      ∀ run ∈ splitRuns less eager good xs, run.Valid less among := by
  fun_induction splitRuns less eager good xs with
  | case1 => exact ⟨.refl [], by simp⟩
  | case2 x rest run ih =>
      obtain ⟨piece, later, hpieces, hpiecePos, hrun, hvalid⟩ :=
        firstRun_spec hless eager good hxs (by simp)
      -- what the runs go on with is what the first one leaves
      have hlater : rest.drop (run.items.length - 1) = later := by
        obtain ⟨first, others, rfl⟩ := List.exists_cons_of_length_pos hpiecePos
        rw [List.cons_append] at hpieces
        injection hpieces with _ hrest
        rw [hrun.perm.length_eq, List.length_cons, Nat.add_sub_cancel, hrest, List.drop_left]
      rw [hlater] at ih ⊢
      have hlaterAmong : ∀ z ∈ later, among z := fun z hz =>
        hxs z (hpieces ▸ List.mem_append_right piece hz)
      obtain ⟨hexchanges, hvalids⟩ := ih hlaterAmong
      constructor
      · rw [hpieces, List.flatMap_cons]
        exact hrun.append hexchanges
      · intro other hm
        rcases List.mem_cons.mp hm with rfl | hm
        · exact hvalid
        · exact hvalids other hm

/-! ## Merging -/

variable {sortPiece : List α → List α}
  (hpiece : ∀ xs : List α, (∀ x ∈ xs, among x) → SortsTo less xs (sortPiece xs))

include hpiece in
theorem Run.Valid.settle {run : Run α} (h : run.Valid less among) :
    SortsTo less run.items (run.settle sortPiece) := by
  unfold Run.settle
  split
  · next hsorted => exact ⟨.refl run.items, h.ordered hsorted⟩
  · exact hpiece run.items h.among

include hless hpiece in
/-- **One merge of two neighbouring runs** makes exchanges at most. -/
theorem Run.Valid.join {left right : Run α} (hleft : left.Valid less among)
    (hright : right.Valid less among) :
    (left.join less sortPiece right).Valid less among ∧
      Exchanges less (left.items ++ right.items) (left.join less sortPiece right).items := by
  have hboth : ∀ x ∈ left.items ++ right.items, among x := fun x hx =>
    (List.mem_append.mp hx).elim (hleft.among x) (hright.among x)
  unfold Run.join
  split
  · have hleftSettled := hleft.settle hpiece
    have hrightSettled := hright.settle hpiece
    have hmerge : SortsTo less (left.items ++ right.items)
        (merge less (left.settle sortPiece) (right.settle sortPiece)) :=
      .of_exchanges (hleftSettled.exchanges.append hrightSettled.exchanges)
        (sortsTo_merge hless (fun x hx => hleft.among x (hleftSettled.perm.mem_iff.mp hx))
          (fun x hx => hright.among x (hrightSettled.perm.mem_iff.mp hx)) hleftSettled.ordered
          hrightSettled.ordered)
    exact ⟨⟨fun x hx => hboth x (hmerge.perm.mem_iff.mp hx), fun _ => hmerge.ordered⟩,
      hmerge.exchanges⟩
  · exact ⟨⟨hboth, fun h => absurd h (by simp)⟩, .refl _⟩

end

/-- The elements of runs that are given from the last one on. -/
def itemsBefore : List (Run α × Nat) → List α
  | [] => []
  | (left, _) :: rest => itemsBefore rest ++ left.items

section

variable (hless : WeakOrder less among) {sortPiece : List α → List α}
  (hpiece : ∀ xs : List α, (∀ x ∈ xs, among x) → SortsTo less xs (sortPiece xs))

include hless hpiece in
/-- **Some merges of a run with those before it** make exchanges at most. -/
theorem collapse_spec (depth : Nat) {run : Run α} {before : List (Run α × Nat)}
    (hrun : run.Valid less among) (hbefore : ∀ entry ∈ before, entry.1.Valid less among) :
    (collapse less sortPiece depth run before).1.Valid less among ∧
      (∀ entry ∈ (collapse less sortPiece depth run before).2, entry.1.Valid less among) ∧
      Exchanges less (itemsBefore before ++ run.items)
        (itemsBefore (collapse less sortPiece depth run before).2 ++
          (collapse less sortPiece depth run before).1.items) := by
  induction before generalizing run with
  | nil => exact ⟨hrun, hbefore, .refl _⟩
  | cons entry rest ih =>
      obtain ⟨left, leftDepth⟩ := entry
      have hleft := hbefore (left, leftDepth) List.mem_cons_self
      have hrest : ∀ entry ∈ rest, entry.1.Valid less among := fun entry hm =>
        hbefore entry (List.mem_cons_of_mem _ hm)
      rw [collapse]
      split
      · -- the run before is deep enough: it is joined, and the merging goes on
        obtain ⟨hjoin, hjoinExchanges⟩ := hleft.join hless hpiece hrun
        obtain ⟨hmerged, hleftOver, hexchanges⟩ := ih hjoin hrest
        refine ⟨hmerged, hleftOver, ?_⟩
        rw [itemsBefore, List.append_assoc]
        exact (hjoinExchanges.append_left (itemsBefore rest)).trans hexchanges
      · exact ⟨hrun, hbefore, .refl _⟩

/-- At depth zero nothing is left before the run. -/
theorem collapse_zero {run : Run α} {before : List (Run α × Nat)} :
    (collapse less sortPiece 0 run before).2 = [] := by
  induction before generalizing run with
  | nil => rfl
  | cons entry rest ih =>
      rw [collapse, if_pos (Nat.zero_le entry.2)]
      exact ih

include hless hpiece in
/-- **All merges together** make exchanges at most. -/
theorem mergeRuns_spec (total place : Nat) {run : Run α} {before : List (Run α × Nat)}
    {runs : List (Run α)} (hrun : run.Valid less among)
    (hbefore : ∀ entry ∈ before, entry.1.Valid less among)
    (hruns : ∀ next ∈ runs, next.Valid less among) :
    (mergeRuns less sortPiece total place run before runs).Valid less among ∧
      Exchanges less (itemsBefore before ++ run.items ++ runs.flatMap Run.items)
        (mergeRuns less sortPiece total place run before runs).items := by
  induction runs generalizing place run before with
  | nil =>
      obtain ⟨hmerged, -, hexchanges⟩ := collapse_spec hless hpiece 0 hrun hbefore
      rw [collapse_zero] at hexchanges
      rw [mergeRuns, List.flatMap_nil, List.append_nil]
      exact ⟨hmerged, hexchanges⟩
  | cons next rest ih =>
      have hnext := hruns next List.mem_cons_self
      have hrest : ∀ later ∈ rest, later.Valid less among := fun later hm =>
        hruns later (List.mem_cons_of_mem next hm)
      rw [mergeRuns]
      dsimp only
      generalize mergeDepth total (place - run.items.length) place
        (place + next.items.length) = depth
      -- first the merges that the new run allows, then those of the runs after it
      obtain ⟨hmerged, hleft, hexchanges⟩ := collapse_spec hless hpiece depth hrun hbefore
      generalize collapse less sortPiece depth run before = collapsed at *
      obtain ⟨merged, left⟩ := collapsed
      have hbeforeNext : ∀ entry ∈ (merged, depth) :: left, entry.1.Valid less among := by
        intro entry hm
        rcases List.mem_cons.mp hm with rfl | hm
        · exact hmerged
        · exact hleft entry hm
      obtain ⟨hall, hlater⟩ := ih _ hnext hbeforeNext hrest
      refine ⟨hall, ?_⟩
      rw [List.flatMap_cons, ← List.append_assoc]
      exact ((hexchanges.append_right next.items).append_right (rest.flatMap Run.items)).trans hlater

/-! ## Sorting -/

include hless hpiece in
/-- **Merging runs sorts.** -/
theorem sortsTo_sortRuns {eager : Bool} {xs : List α} (hxs : ∀ x ∈ xs, among x) :
    SortsTo less xs (sortRuns less eager sortPiece xs) := by
  obtain ⟨hcut, hvalid⟩ := splitRuns_spec hless eager (goodLength xs.length) hxs
  unfold sortRuns
  generalize splitRuns less eager (goodLength xs.length) xs = runs at *
  match runs with
  | [] => exact ⟨hcut, .nil⟩
  | first :: rest =>
      obtain ⟨hmerged, hexchanges⟩ := mergeRuns_spec hless hpiece xs.length first.items.length
        (hvalid first List.mem_cons_self) (fun entry hm => absurd hm List.not_mem_nil)
        fun later hm => hvalid later (List.mem_cons_of_mem first hm)
      rw [itemsBefore, List.nil_append, ← List.flatMap_cons] at hexchanges
      exact .of_exchanges (hcut.trans hexchanges) (hmerged.settle hpiece)

include hless in
/-- **Sorting eagerly** is a stable sort. -/
theorem sortsTo_sortEagerly {xs : List α} (hxs : ∀ x ∈ xs, among x) :
    SortsTo less xs (sortEagerly less xs) :=
  sortsTo_sortRuns hless (fun _ => sortsTo_sortShort hless) hxs

end

end Docstore.Sorting

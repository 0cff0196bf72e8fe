/-!
# `Docstore.Proofs.Sorting.Order` — what it means to sort a list stably

A list is sorted stably by exchanging neighbours of which the second is less, until no element is less
than one before it. `Exchanges` is the first half, `Ordered` the second, and `SortsTo` both. Every way of
sorting in this library only ever makes such exchanges, so a list sorts to one list at most
(`SortsTo.unique`), and elements that are neither less nor greater stay in the order in which they came
(`SortsTo.numbered`).

The comparison need not be an order on all elements. `WeakOrder` asks for one among the elements of some
set, and the lists that are sorted are made of these.

## Contents
- **Weak orders.** `WeakOrder` and what follows from its two laws.
- **Exchanges.** `Exchanges.perm`, `Exchanges.pairwise`, and which blocks may be exchanged.
- **Sorting.** `SortsTo`, `SortsTo.mirror`, `SortsTo.numbered`, `SortsTo.unique`.
-/

namespace Docstore.Sorting

variable {α β : Type}

/-! ## Weak orders -/

/-- Among the elements of a set `less` is a strict order for which being neither less nor greater is an
equivalence. -/
structure WeakOrder (less : α → α → Bool) (among : α → Prop) : Prop where
  asymm : ∀ {x y : α}, among x → among y → less x y = true → less y x = false
  cotrans : ∀ {x y z : α}, among x → among y → among z →
    less x z = true → less x y = true ∨ less y z = true

namespace WeakOrder

variable {less : α → α → Bool} {among : α → Prop} {x y z : α}

theorem irrefl (h : WeakOrder less among) (hx : among x) : less x x = false := by
  cases hxx : less x x with
  | false => rfl
  | true => exact hxx ▸ h.asymm hx hx hxx

/-- Not being after is transitive. -/
theorem not_less_trans (h : WeakOrder less among) (hx : among x) (hy : among y) (hz : among z)
    (hyx : less y x = false) (hzy : less z y = false) : less z x = false := by
  cases hzx : less z x with
  | false => rfl
  | true =>
      rcases h.cotrans hz hy hx hzx with h' | h'
      · exact absurd h' (by simp [hzy])
      · exact absurd h' (by simp [hyx])

/-- What is less than an element is less than all that are not before it. -/
theorem less_of_not_less (h : WeakOrder less among) (hx : among x) (hy : among y) (hz : among z)
    (hxy : less x y = true) (hzy : less z y = false) : less x z = true := by
  rcases h.cotrans hx hz hy hxy with h' | h'
  · exact h'
  · exact absurd h' (by simp [hzy])

/-- What is not after an element is less than all that the element is less than. -/
theorem less_of_not_greater (h : WeakOrder less among) (hx : among x) (hy : among y) (hz : among z)
    (hyx : less y x = false) (hyz : less y z = true) : less x z = true := by
  rcases h.cotrans hy hx hz hyz with h' | h'
  · exact absurd h' (by simp [hyx])
  · exact h'

theorem trans (h : WeakOrder less among) (hx : among x) (hy : among y) (hz : among z)
    (hxy : less x y = true) (hyz : less y z = true) : less x z = true :=
  h.less_of_not_less hx hy hz hxy (h.asymm hy hz hyz)

/-- Read backwards, a weak order is a weak order. -/
theorem mirror (h : WeakOrder less among) : WeakOrder (fun x y => less y x) among where
  asymm := fun hx hy hyx => h.asymm hy hx hyx
  cotrans := fun hx hy hz hzx => (h.cotrans hz hy hx hzx).symm

end WeakOrder

/-- No element is less than one before it. -/
def Ordered (less : α → α → Bool) (xs : List α) : Prop := xs.Pairwise fun x y => less y x = false

theorem ordered_append_iff {less : α → α → Bool} {xs ys : List α} :
    Ordered less (xs ++ ys) ↔
      Ordered less xs ∧ Ordered less ys ∧ ∀ x ∈ xs, ∀ y ∈ ys, less y x = false :=
  List.pairwise_append

theorem ordered_concat_iff {less : α → α → Bool} {xs : List α} {y : α} :
    Ordered less (xs ++ [y]) ↔ Ordered less xs ∧ ∀ x ∈ xs, less y x = false := by
  rw [ordered_append_iff]
  constructor
  · rintro ⟨oxs, -, hlast⟩
    exact ⟨oxs, fun x hx => hlast x hx y List.mem_cons_self⟩
  · rintro ⟨oxs, hlast⟩
    refine ⟨oxs, List.pairwise_singleton _ y, fun x hx z hz => ?_⟩
    rw [List.mem_singleton.mp hz]
    exact hlast x hx

/-- A list is in order exactly if its mirror image is in the mirrored order. -/
theorem ordered_mirror {less : α → α → Bool} {xs : List α} :
    Ordered (fun x y => less y x) xs.reverse ↔ Ordered less xs :=
  List.pairwise_reverse

/-! ## Exchanges -/

/-- The second list comes from the first by exchanges of neighbours of which the second is less. -/
inductive Exchanges (less : α → α → Bool) : List α → List α → Prop where
  | refl (xs : List α) : Exchanges less xs xs
  | swap {x y : α} (h : less y x = true) (rest : List α) :
      Exchanges less (x :: y :: rest) (y :: x :: rest)
  | cons (x : α) {xs ys : List α} (h : Exchanges less xs ys) : Exchanges less (x :: xs) (x :: ys)
  | trans {xs ys zs : List α} (h : Exchanges less xs ys) (h' : Exchanges less ys zs) :
      Exchanges less xs zs

namespace Exchanges

variable {less : α → α → Bool} {xs ys zs ws : List α}

theorem perm (h : Exchanges less xs ys) : ys.Perm xs := by
  induction h with
  | refl xs => exact .refl xs
  | swap _ rest => exact .swap _ _ rest
  | cons x _ ih => exact ih.cons x
  | trans _ _ ih ih' => exact ih'.trans ih

theorem append_left (front : List α) (h : Exchanges less xs ys) :
    Exchanges less (front ++ xs) (front ++ ys) := by
  induction front with
  | nil => exact h
  | cons x _ ih => exact ih.cons x

theorem append_right (h : Exchanges less xs ys) (back : List α) :
    Exchanges less (xs ++ back) (ys ++ back) := by
  induction h with
  | refl xs => exact .refl _
  | swap h rest => exact .swap h (rest ++ back)
  | cons x _ ih => exact ih.cons x
  | trans _ _ ih ih' => exact ih.trans ih'

theorem append (h : Exchanges less xs ys) (h' : Exchanges less zs ws) :
    Exchanges less (xs ++ zs) (ys ++ ws) :=
  (h.append_right zs).trans (h'.append_left ys)

/-- An element may go in front of those that it is less than. -/
theorem move_front {y : α} (h : ∀ x ∈ xs, less y x = true) (rest : List α) :
    Exchanges less (xs ++ y :: rest) (y :: (xs ++ rest)) := by
  induction xs with
  | nil => exact .refl _
  | cons x xs ih =>
      have hlater := ih fun z hz => h z (List.mem_cons_of_mem x hz)
      exact (hlater.cons x).trans (.swap (h x List.mem_cons_self) (xs ++ rest))

/-- A block may go in front of another if all of its elements are less. -/
theorem swap_blocks (h : ∀ x ∈ xs, ∀ y ∈ ys, less y x = true) :
    Exchanges less (xs ++ ys) (ys ++ xs) := by
  induction ys with
  | nil => rw [List.append_nil]; exact .refl xs
  | cons y ys ih =>
      have hfirst : ∀ x ∈ xs, less y x = true := fun x hx => h x hx y List.mem_cons_self
      have hlater := ih fun x hx z hz => h x hx z (List.mem_cons_of_mem y hz)
      exact (move_front hfirst ys).trans (hlater.cons y)

/-- The elements that pass a test may go in front if they are less than the others. -/
theorem partition {test : α → Bool}
    (h : ∀ x ∈ xs, test x = false → ∀ y ∈ xs, test y = true → less y x = true) :
    Exchanges less xs (xs.filter test ++ xs.filter fun x => !test x) := by
  induction xs with
  | nil => exact .refl []
  | cons x xs ih =>
      have hlater := ih fun z hz hzt y hy => h z (List.mem_cons_of_mem x hz) hzt y
        (List.mem_cons_of_mem x hy)
      cases hx : test x with
      | true =>
          rw [List.filter_cons_of_pos hx, List.filter_cons_of_neg (by simp [hx])]
          exact hlater.cons x
      | false =>
          rw [List.filter_cons_of_neg (by simp [hx]), List.filter_cons_of_pos (by simp [hx])]
          -- `x` stays behind all that pass the test
          have hpass : ∀ y ∈ xs.filter test, less y x = true := by
            intro y hy
            obtain ⟨hy, hyt⟩ := List.mem_filter.mp hy
            exact h x List.mem_cons_self hx y (List.mem_cons_of_mem x hy) hyt
          refine (hlater.cons x).trans ?_
          have hmove : Exchanges less ([x] ++ xs.filter test) (xs.filter test ++ [x]) :=
            swap_blocks fun z hz y hy => by rw [List.mem_singleton.mp hz]; exact hpass y hy
          have := hmove.append_right (xs.filter fun x => !test x)
          rw [List.append_assoc, List.append_assoc] at this
          exact this

/-- A list that falls throughout may be reversed. -/
theorem reverse_falling (h : xs.Pairwise fun x y => less y x = true) :
    Exchanges less xs xs.reverse := by
  induction h with
  | nil => exact .refl []
  | @cons x xs hx _ ih =>
      rw [List.reverse_cons]
      have hmove : Exchanges less ([x] ++ xs.reverse) (xs.reverse ++ [x]) :=
        swap_blocks fun z hz y hy => by
          rw [List.mem_singleton.mp hz]; exact hx y (List.mem_reverse.mp hy)
      exact (ih.cons x).trans hmove

/-- A relation between earlier and later elements outlasts exchanges if the exchanged elements stand in it
afterwards. -/
theorem pairwise {related : α → α → Prop} (hswap : ∀ x y, less y x = true → related y x)
    (h : Exchanges less xs ys) (hxs : xs.Pairwise related) : ys.Pairwise related := by
  induction h with
  | refl xs => exact hxs
  | @swap x y h rest =>
      obtain ⟨hx, hrest⟩ := List.pairwise_cons.mp hxs
      obtain ⟨hy, hrest⟩ := List.pairwise_cons.mp hrest
      refine List.pairwise_cons.mpr ⟨?_, List.pairwise_cons.mpr ⟨?_, hrest⟩⟩
      · intro z hz
        rcases List.mem_cons.mp hz with rfl | hz
        · exact hswap z y h
        · exact hy z hz
      · exact fun z hz => hx z (List.mem_cons_of_mem y hz)
  | cons x h ih =>
      obtain ⟨hx, hrest⟩ := List.pairwise_cons.mp hxs
      exact List.pairwise_cons.mpr ⟨fun z hz => hx z (h.perm.mem_iff.mp hz), ih hrest⟩
  | trans _ _ ih ih' => exact ih' (ih hxs)

/-- Exchanges of images are exchanges of the elements they belong to. -/
theorem of_map {f : β → α} {xs : List β} (h : Exchanges less (xs.map f) ys) :
    ∃ zs, zs.map f = ys ∧ Exchanges (fun x y => less (f x) (f y)) xs zs := by
  generalize hm : xs.map f = ms at h
  induction h generalizing xs with
  | refl ms => exact ⟨xs, hm, .refl xs⟩
  | swap h rest =>
      obtain ⟨a, later, rfl, rfl, hlater⟩ := List.map_eq_cons_iff.mp hm
      obtain ⟨b, others, rfl, rfl, rfl⟩ := List.map_eq_cons_iff.mp hlater
      have hpair : Exchanges (fun x y => less (f x) (f y)) (a :: b :: others) (b :: a :: others) :=
        @swap β (fun x y => less (f x) (f y)) a b h others
      exact ⟨b :: a :: others, rfl, hpair⟩
  | cons m _ ih =>
      obtain ⟨a, later, rfl, rfl, hlater⟩ := List.map_eq_cons_iff.mp hm
      obtain ⟨zs, rfl, hzs⟩ := ih hlater
      exact ⟨a :: zs, rfl, hzs.cons a⟩
  | trans _ _ ih ih' =>
      obtain ⟨ys, hys, hxy⟩ := ih hm
      obtain ⟨zs, hzs, hyz⟩ := ih' hys
      exact ⟨zs, hzs, hxy.trans hyz⟩

/-- Exchanges read backwards are exchanges for the comparison read backwards. -/
theorem mirror (h : Exchanges less xs ys) :
    Exchanges (fun x y => less y x) xs.reverse ys.reverse := by
  induction h with
  | refl xs => exact .refl _
  | @swap x y h rest =>
      rw [List.reverse_cons, List.reverse_cons, List.reverse_cons, List.reverse_cons,
        List.append_assoc, List.append_assoc]
      have hback : Exchanges (fun x y => less y x) [y, x] [x, y] :=
        @swap α (fun x y => less y x) y x h []
      exact hback.append_left rest.reverse
  | cons x _ ih =>
      rw [List.reverse_cons, List.reverse_cons]
      exact ih.append_right [x]
  | trans _ _ ih ih' => exact ih.trans ih'

end Exchanges

/-! ## Sorting -/

/-- The second list is the first one sorted stably. -/
structure SortsTo (less : α → α → Bool) (xs ys : List α) : Prop where
  exchanges : Exchanges less xs ys
  ordered : Ordered less ys

namespace SortsTo

variable {less : α → α → Bool} {xs ys zs : List α}

theorem perm (h : SortsTo less xs ys) : ys.Perm xs := h.exchanges.perm

theorem length_eq (h : SortsTo less xs ys) : ys.length = xs.length := h.perm.length_eq

/-- Exchanges before sorting come to the same sorted list. -/
theorem of_exchanges (h : Exchanges less xs ys) (h' : SortsTo less ys zs) : SortsTo less xs zs :=
  ⟨h.trans h'.exchanges, h'.ordered⟩

/-- To sort in the mirrored order is to sort the mirror image. -/
theorem mirror (h : SortsTo less xs ys) : SortsTo (fun x y => less y x) xs.reverse ys.reverse :=
  ⟨h.exchanges.mirror, ordered_mirror.mpr h.ordered⟩

/-- **Where the elements come from.** Give every element the number of its place. Then the elements are
sorted together with their numbers: all of them are there, none is less than one before it, and where
one is not less than a later one either, the earlier one has the lower number. -/
theorem numbered (h : SortsTo less xs ys) :
    ∃ pairs : List (α × Nat), pairs.Perm xs.zipIdx ∧ pairs.map Prod.fst = ys ∧
      pairs.Pairwise fun p q =>
        less q.1 p.1 = false ∧ (less p.1 q.1 = false → p.2 < q.2) := by
  have hxs : Exchanges less (xs.zipIdx.map Prod.fst) ys := by
    rw [List.zipIdx_map_fst]
    exact h.exchanges
  obtain ⟨pairs, hys, hpairs⟩ := hxs.of_map
  refine ⟨pairs, hpairs.perm, hys, List.Pairwise.and ?_ ?_⟩
  · have hordered := h.ordered
    rw [← hys] at hordered
    exact List.pairwise_map.mp hordered
  · -- exchanged pairs are told apart by the comparison, so the numbers of the others still rise
    refine hpairs.pairwise (fun p q hqp hnot => absurd hqp (by simp [hnot])) ?_
    have hnumbers : (xs.zipIdx.map Prod.snd).Pairwise (· < ·) := by
      rw [List.zipIdx_map_snd]
      exact List.pairwise_lt_range'
    refine (List.pairwise_map.mp hnumbers).imp ?_
    intro p q hlt _
    exact hlt

/-- **A list sorts to one list at most.** -/
theorem unique (h : SortsTo less xs ys) (h' : SortsTo less xs zs) : ys = zs := by
  obtain ⟨pairs, hperm, rfl, hpairs⟩ := h.numbered
  obtain ⟨pairs', hperm', rfl, hpairs'⟩ := h'.numbered
  have heq : pairs = pairs' := by
    refine List.Perm.eq_of_pairwise ?_ hpairs hpairs' (hperm.trans hperm'.symm)
    intro p q _ _ hpq hqp
    have hlow := hpq.2 hqp.1
    have hhigh := hqp.2 hpq.1
    omega
  rw [heq]

end SortsTo
end Docstore.Sorting

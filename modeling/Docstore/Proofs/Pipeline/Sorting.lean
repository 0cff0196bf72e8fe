import Docstore.Pipeline.Sorting
import Docstore.Proofs.Entries
import Docstore.Proofs.Sorting.Stable
import Docstore.Proofs.Value.Order

/-!
# `Docstore.Proofs.Pipeline.Sorting` — documents are sorted stably

What a path names in a document is made of the scalars of the document, so documents whose 64-bit integers
lie within `±2⁵³` are compared by values whose integers do. Such documents are totally preordered by any
list of sort keys, in any directions, and the stable sort puts them into this order.

## Contents
- **Parts.** `scalars_resolve_subset`.
- **The order of documents.** `coherent_compareDocuments`, `compareDocuments_swap`,
  `weakOrder_isBefore`.
- **Sorting.** `sorted_in_stable_order`.
-/

namespace Docstore

/-! ## Parts -/

/-- What a path names is made of scalars of the document. -/
theorem scalars_resolveSegments_subset {dropEmpty : Bool} {segments : List String} {fields : Fields}
    {value : Value} (h : resolveSegments dropEmpty segments fields = some value) :
    value.scalars ⊆ (Value.document fields).scalars := by
  induction segments generalizing fields value with
  | nil => exact absurd h (by simp [resolveSegments])
  | cons head rest ih =>
      cases rest with
      | nil =>
          have hentry := Entries.mem_of_get? (h : Entries.get? head fields = some value)
          exact Value.scalars_subset_document hentry
      | cons next rest =>
          rw [resolveSegments] at h
          split at h
          · next inner hinner =>
              have hentry := Entries.mem_of_get? hinner
              exact List.Subset.trans (ih h) (Value.scalars_subset_document hentry)
          · next items hitems =>
              have hentry := Entries.mem_of_get? hitems
              refine List.Subset.trans ?_ (Value.scalars_subset_document hentry)
              dsimp only at h
              split at h
              · exact absurd h (by simp)
              · obtain rfl := Option.some.inj h
                intro s hs
                -- each value found comes from one of the documents in the array
                rw [Value.scalars_array] at hs
                obtain ⟨found, hfound, hs⟩ := List.mem_flatMap.mp hs
                obtain ⟨item, hitem, hresolve⟩ := List.mem_filterMap.mp hfound
                cases item with
                | document inner => exact Value.scalars_subset_array hitem (ih hresolve hs)
                | _ => exact absurd hresolve (by simp)
          · exact absurd h (by simp)

/-- The value that a sort key looks at is exact in an exact document. -/
theorem integersExact_resolve {fields : Fields} (h : (Value.document fields).IntegersExact)
    (path : FieldPath) : ((resolve fields path).getD .null).IntegersExact := by
  intro n hn
  cases hresolve : resolve fields path with
  | none =>
      rw [hresolve] at hn
      exact absurd hn (by simp [Value.scalars])
  | some value =>
      rw [hresolve] at hn
      exact h n (scalars_resolveSegments_subset hresolve hn)

/-! ## The order of documents -/

namespace Coherent

theorem swap {p q r : Ordering} (h : Coherent p q r) : Coherent p.swap q.swap r.swap := by
  obtain ⟨hp, hq, hpq⟩ := h
  refine ⟨fun h => ?_, fun h => ?_, fun h => ?_⟩
  · rw [hp (Ordering.swap_eq_eq.mp h)]
  · rw [hq (Ordering.swap_eq_eq.mp h)]
  · rw [hpq (Ordering.swap_inj.mp h)]

/-- Not being less is transitive where comparisons are coherent. -/
theorem ne_lt {p q r : Ordering} (h : Coherent p q r) (hp : p ≠ .lt) (hq : q ≠ .lt) : r ≠ .lt := by
  have hswap := h.swap.ne_gt (mt Ordering.swap_eq_gt.mp hp) (mt Ordering.swap_eq_gt.mp hq)
  exact fun h => hswap (Ordering.swap_eq_gt.mpr h)

end Coherent

/-- **Exact documents compare coherently** by any sort keys. -/
theorem coherent_compareDocuments {a b c : Fields} (ha : (Value.document a).IntegersExact)
    (hb : (Value.document b).IntegersExact) (hc : (Value.document c).IntegersExact)
    (keys : List SortKey) :
    Coherent (compareDocuments keys a b) (compareDocuments keys b c) (compareDocuments keys a c) := by
  induction keys with
  | nil => exact ⟨fun _ => rfl, fun _ => rfl, fun _ => rfl⟩
  | cons key rest ih =>
      unfold compareDocuments
      refine Coherent.then_of_eq ?_ fun _ _ _ => ih
      have hvalues := Value.coherent_order
        (fun _ _ _ hx hy _ => Value.not_tied_of_exact hx hy)
        (integersExact_resolve ha key.path).numbersIn (integersExact_resolve hb key.path).numbersIn
        (integersExact_resolve hc key.path).numbersIn
      unfold SortKey.compare
      cases key.direction with
      | ascending => exact hvalues
      | descending => exact hvalues.swap

/-- Turning a comparison of documents round reverses it. -/
theorem compareDocuments_swap (keys : List SortKey) (a b : Fields) :
    (compareDocuments keys a b).swap = compareDocuments keys b a := by
  induction keys with
  | nil => rfl
  | cons key rest ih =>
      have hkey : (key.compare a b).swap = key.compare b a := by
        unfold SortKey.compare
        cases key.direction with
        | ascending => exact Value.order_swap _ _
        | descending => exact congrArg Ordering.swap (Value.order_swap _ _)
      rw [compareDocuments, Ordering.swap_then, hkey, ih]
      rfl

theorem compareDocuments_self (keys : List SortKey) (a : Fields) : compareDocuments keys a a = .eq := by
  have hswap := compareDocuments_swap keys a a
  cases h : compareDocuments keys a a with
  | eq => rfl
  | lt => rw [h] at hswap; exact absurd hswap (by simp)
  | gt => rw [h] at hswap; exact absurd hswap (by simp)

theorem isBefore_iff {keys : List SortKey} {a b : Fields} :
    isBefore keys a b = true ↔ compareDocuments keys a b = .lt := by
  rw [isBefore, beq_iff_eq]

theorem isBefore_eq_false_iff {keys : List SortKey} {a b : Fields} :
    isBefore keys a b = false ↔ compareDocuments keys a b ≠ .lt := by
  rw [isBefore, beq_eq_false_iff_ne]

/-- **Being before is a weak order of exact documents.** -/
theorem weakOrder_isBefore (keys : List SortKey) :
    Sorting.WeakOrder (isBefore keys) fun fields => (Value.document fields).IntegersExact where
  asymm := by
    intro a b _ _ hab
    rw [isBefore_iff] at hab
    rw [isBefore_eq_false_iff, ← compareDocuments_swap, hab]
    exact nofun
  cotrans := by
    intro a b c ha hb hc hac
    rw [isBefore_iff] at hac ⊢
    rw [isBefore_iff]
    by_contra hneither
    rw [not_or] at hneither
    exact (coherent_compareDocuments ha hb hc keys).ne_lt hneither.1 hneither.2 hac

/-! ## Sorting -/

/-- **Documents are sorted stably.** Let all 64-bit integers inside some documents lie within `±2⁵³`. Then
any sort keys preorder these documents totally, and `sortDocuments` rearranges them so that no document
stands before one that is strictly before it. Numbered by their places of arrival, documents that compare
equal stand in the order of their numbers. -/
theorem sorted_in_stable_order (keys : List SortKey) {documents : List Fields}
    (h : ∀ document ∈ documents, (Value.document document).IntegersExact) :
    ((∀ a ∈ documents, compareDocuments keys a a = .eq) ∧
      (∀ a ∈ documents, ∀ b ∈ documents,
        compareDocuments keys b a = (compareDocuments keys a b).swap) ∧
      ∀ a ∈ documents, ∀ b ∈ documents, ∀ c ∈ documents,
        compareDocuments keys a b ≠ .gt → compareDocuments keys b c ≠ .gt →
          compareDocuments keys a c ≠ .gt) ∧
    (sortDocuments keys documents).Perm documents ∧
    (sortDocuments keys documents).Pairwise (fun a b => compareDocuments keys b a ≠ .lt) ∧
    ∃ numbered : List (Fields × Nat), numbered.Perm documents.zipIdx ∧
      numbered.map Prod.fst = sortDocuments keys documents ∧
      numbered.Pairwise fun a b => compareDocuments keys a.1 b.1 = .eq → a.2 < b.2 := by
  have hsorts : Sorting.SortsTo (isBefore keys) documents (sortDocuments keys documents) :=
    Sorting.sortsTo_sortStable (weakOrder_isBefore keys) h
  refine ⟨⟨?_, ?_, ?_⟩, hsorts.perm, ?_, ?_⟩
  · intro a _
    exact compareDocuments_self keys a
  · intro a _ b _
    exact (compareDocuments_swap keys a b).symm
  · intro a ha b hb c hc
    exact (coherent_compareDocuments (h a ha) (h b hb) (h c hc) keys).ne_gt
  · exact hsorts.ordered.imp fun hnot => isBefore_eq_false_iff.mp hnot
  · obtain ⟨numbered, hperm, hsorted, hpairs⟩ := hsorts.numbered
    refine ⟨numbered, hperm, hsorted, hpairs.imp fun hpair heq => hpair.2 ?_⟩
    rw [isBefore_eq_false_iff, heq]
    exact nofun

/-- A missing value comes first; a double and an integer that are equal stay as they came. -/
theorem sorted_in_stable_order_mixed :
    let documents : List Fields := [[("v", .double ⟨0x3FF0000000000000⟩), ("n", .int64 7)],
      [("v", .int64 1)], [("w", .array [.int32 2])]]
    let keys : List SortKey := [⟨⟨["v"], by simp⟩, .ascending⟩]
    (∀ document ∈ documents, (Value.document document).IntegersExact) ∧
    ∃ numbered : List (Fields × Nat), numbered.Perm documents.zipIdx ∧
      numbered.map Prod.fst = [[("w", .array [.int32 2])],
        [("v", .double ⟨0x3FF0000000000000⟩), ("n", .int64 7)], [("v", .int64 1)]] ∧
      numbered.Pairwise fun a b => compareDocuments keys a.1 b.1 = .eq → a.2 < b.2 := by
  intro documents keys
  have hexact : ∀ document ∈ documents, (Value.document document).IntegersExact := by
    intro document hm n hn
    simp only [documents, List.mem_cons, List.not_mem_nil, or_false] at hm
    rcases hm with rfl | rfl | rfl
    all_goals simp [Value.scalars, Value.fieldScalars, Value.itemScalars] at hn
    all_goals subst hn
    all_goals decide
  have hequal : isBefore keys [("v", .int64 1)]
      [("v", .double ⟨0x3FF0000000000000⟩), ("n", .int64 7)] = false := by
    unfold keys
    decide +kernel
  have hmissing : isBefore keys [("w", .array [.int32 2])] [("v", .int64 1)] = true ∧
      isBefore keys [("w", .array [.int32 2])]
        [("v", .double ⟨0x3FF0000000000000⟩), ("n", .int64 7)] = true := by
    unfold keys
    decide +kernel
  obtain ⟨-, -, -, numbered, hperm, hsorted, hpairs⟩ := sorted_in_stable_order keys hexact
  refine ⟨hexact, numbered, hperm, hsorted.trans ?_, hpairs⟩
  simp [documents, sortDocuments, Sorting.sortStable, Sorting.maxInsertion, Sorting.insertionSort,
    Sorting.insertAll, Sorting.insertFromEnd, hequal, hmissing]

end Docstore

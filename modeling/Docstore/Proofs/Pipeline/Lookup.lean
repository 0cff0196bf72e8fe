import Docstore.Pipeline.Execution
import Docstore.Proofs.Pipeline.Feed

/-!
# `Docstore.Proofs.Pipeline.Lookup` — the index computes the nested loop

A lookup means a nested loop: for each document, every foreign document that shares a key with it, in the
order of the collection. It runs through an index. The loop that builds the index keeps an invariant
(`ForeignIndex.Faithful`): a place stands under a key exactly if the document at that place is found under
it. The places of some keys are sorted and freed of repetitions, so they select each document once and
in order.

## Contents
- **Keys.** `Lookup.Asks` and `Lookup.FoundUnder`; `Lookup.Joins` if they have a key in common.
- **Building the index.** `Faithful.add` is one step, `faithful_build` the whole loop.
- **Places in order.** `hits_ascending`, `filterMap_getElem?_of_ascending`.
- **Joining.** `matching_eq_filter`, `attach_build_eq`, and `lookup_eq_nested_loop` for the stage.
-/

namespace Docstore

/-! ## Keys -/

namespace Lookup

/-- The keys that a document asks for: those of the items if its local field is an array, else the one of
the field itself. A missing field counts as null. -/
inductive Asks (lookup : Lookup) (document : Fields) : ValueKey → Prop where
  | item {items : List Value} {item : Value}
      (h : resolve document lookup.localField = some (.array items)) (hm : item ∈ items) :
      Asks lookup document (.of item)
  | whole (h : ∀ items, resolve document lookup.localField ≠ some (.array items)) :
      Asks lookup document (.ofOption (resolve document lookup.localField))

/-- The keys under which a foreign document is found: the one of its foreign field, and those of the
items if that is an array. A missing field counts as null. -/
inductive FoundUnder (lookup : Lookup) (foreign : Fields) : ValueKey → Prop where
  | item {items : List Value} {item : Value}
      (h : resolve foreign lookup.foreignField = some (.array items)) (hm : item ∈ items) :
      FoundUnder lookup foreign (.of item)
  | whole : FoundUnder lookup foreign (.ofOption (resolve foreign lookup.foreignField))

/-- Do a document and a foreign document share a key? -/
def Joins (lookup : Lookup) (document foreign : Fields) : Prop :=
  ∃ key, lookup.Asks document key ∧ lookup.FoundUnder foreign key

theorem mem_localKeys {lookup : Lookup} {document : Fields} {key : ValueKey} :
    key ∈ lookup.localKeys document ↔ lookup.Asks document key := by
  unfold localKeys
  constructor
  · intro h
    dsimp only at h
    split at h
    · next items hfound =>
        obtain ⟨item, hm, rfl⟩ := List.mem_map.mp h
        exact .item hfound hm
    · next hother =>
        obtain rfl := List.mem_singleton.mp h
        exact .whole hother
  · rintro (⟨hfound, hm⟩ | hother)
    · rw [hfound]
      exact List.mem_map_of_mem hm
    · dsimp only
      split
      · next items hfound => exact absurd hfound (hother items)
      · exact List.mem_singleton.mpr rfl

theorem mem_foreignKeys {lookup : Lookup} {foreign : Fields} {key : ValueKey} :
    key ∈ lookup.foreignKeys foreign ↔ lookup.FoundUnder foreign key := by
  unfold foreignKeys
  constructor
  · intro h
    dsimp only at h
    split at h
    · next items hfound =>
        rcases List.mem_append.mp h with h | h
        · obtain ⟨item, hm, rfl⟩ := List.mem_map.mp h
          exact .item hfound hm
        · obtain rfl := List.mem_singleton.mp h
          exact .whole
    · obtain rfl := List.mem_singleton.mp h
      exact .whole
  · rintro (⟨hfound, hm⟩ | _)
    · rw [hfound]
      exact List.mem_append_left _ (List.mem_map_of_mem hm)
    · dsimp only
      split
      · exact List.mem_append_right _ (List.mem_singleton.mpr rfl)
      · exact List.mem_singleton.mpr rfl

/-- Whether two documents join is a matter of two lists of keys. -/
theorem joins_iff {lookup : Lookup} {document foreign : Fields} : lookup.Joins document foreign ↔
    ∃ key ∈ lookup.localKeys document, key ∈ lookup.foreignKeys foreign := by
  unfold Joins
  simp only [mem_localKeys, mem_foreignKeys]

instance (lookup : Lookup) (document foreign : Fields) : Decidable (lookup.Joins document foreign) :=
  decidable_of_iff _ joins_iff.symm

end Lookup

/-! ## Building the index -/

namespace ForeignIndex

/-- Adding a place to a key adds it there and nowhere else. -/
theorem mem_addPlace {place other : Nat} {places : Std.HashMap ValueKey (List Nat)}
    {key wanted : ValueKey} : other ∈ (addPlace place places key).getD wanted [] ↔
      other ∈ places.getD wanted [] ∨ (other = place ∧ wanted = key) := by
  unfold addPlace
  dsimp only
  split
  · next hlatest =>
      refine ⟨.inl, ?_⟩
      rintro (h | ⟨rfl, rfl⟩)
      · exact h
      · exact List.mem_of_mem_head? hlatest
  · rw [Std.HashMap.getD_insert]
    by_cases hkey : key = wanted
    · subst hkey
      rw [if_pos (beq_self_eq_true key), List.mem_cons, or_comm]
      exact or_congr_right ⟨fun h => ⟨h, rfl⟩, fun h => h.1⟩
    · rw [if_neg (by simpa using hkey)]
      exact ⟨.inl, fun h => h.resolve_right fun hnew => hkey hnew.2.symm⟩

/-- A pass over the keys of a document enters its place under each of them and changes nothing else. -/
theorem mem_addPlaces {place other : Nat} {places : Std.HashMap ValueKey (List Nat)}
    {keys : List ValueKey} {wanted : ValueKey} :
    other ∈ (keys.foldl (addPlace place) places).getD wanted [] ↔
      other ∈ places.getD wanted [] ∨ (other = place ∧ wanted ∈ keys) := by
  induction keys generalizing places with
  | nil => simp
  | cons key rest ih =>
      rw [List.foldl_cons, ih, mem_addPlace, List.mem_cons, and_or_left, or_assoc]

/-- The places under each key descend, all up to a bound. -/
def Descending (bound : Nat) (places : Std.HashMap ValueKey (List Nat)) : Prop :=
  ∀ key, (places.getD key []).Pairwise (· > ·) ∧ ∀ place ∈ places.getD key [], place ≤ bound

/-- To compare with the latest place is enough to add none twice. -/
theorem Descending.addPlace {place : Nat} {places : Std.HashMap ValueKey (List Nat)}
    (h : Descending place places) (key : ValueKey) : Descending place (addPlace place places key) := by
  intro wanted
  unfold ForeignIndex.addPlace
  dsimp only
  split
  · exact h wanted
  · next hlatest =>
      rw [Std.HashMap.getD_insert]
      by_cases hkey : key = wanted
      · subst hkey
        obtain ⟨hdescending, hbound⟩ := h key
        rw [if_pos (beq_self_eq_true key)]
        generalize places.getD key [] = known at *
        refine ⟨List.pairwise_cons.mpr ⟨?_, hdescending⟩, ?_⟩
        · intro other hm
          cases known with
          | nil => exact absurd hm (by simp)
          | cons latest earlier =>
              -- the latest place is another one, so it lies below, and the earlier ones below it
              have hlt : latest < place :=
                Nat.lt_of_le_of_ne (hbound latest (by simp)) (by simpa using hlatest)
              rcases List.mem_cons.mp hm with rfl | hm
              · exact hlt
              · exact Nat.lt_trans ((List.pairwise_cons.mp hdescending).1 other hm) hlt
        · intro other hm
          rcases List.mem_cons.mp hm with rfl | hm
          · exact Nat.le_refl _
          · exact hbound other hm
      · rw [if_neg (by simpa using hkey)]
        exact h wanted

/-- A pass over the keys of a document keeps places descending. -/
theorem Descending.addPlaces {place : Nat} {places : Std.HashMap ValueKey (List Nat)}
    (h : Descending place places) (keys : List ValueKey) :
    Descending place (keys.foldl (ForeignIndex.addPlace place) places) := by
  induction keys generalizing places with
  | nil => exact h
  | cons key rest ih => exact ih (h.addPlace key)

/-- **What the loop over the foreign documents keeps.** The index holds the documents seen so far; a place
stands under a key exactly if the document at that place is found under it, and no place stands there
twice. -/
structure Faithful (lookup : Lookup) (seen : List Fields) (index : ForeignIndex) : Prop where
  documents : index.documents.toList = seen
  places : ∀ key place, place ∈ index.places.getD key [] ↔
    ∃ foreign, seen[place]? = some foreign ∧ key ∈ lookup.foreignKeys foreign
  descending : ∀ key, (index.places.getD key []).Pairwise (· > ·)

namespace Faithful

variable {lookup : Lookup} {seen : List Fields} {index : ForeignIndex}

theorem size_eq (h : Faithful lookup seen index) : index.documents.size = seen.length := by
  rw [← h.documents, Array.length_toList]

/-- Every place that an index names is one of a document. -/
theorem lt_length (h : Faithful lookup seen index) {key : ValueKey} {place : Nat}
    (hm : place ∈ index.places.getD key []) : place < seen.length := by
  obtain ⟨foreign, hforeign, -⟩ := (h.places key place).mp hm
  exact (List.getElem?_eq_some_iff.mp hforeign).1

theorem empty (lookup : Lookup) : Faithful lookup [] ⟨#[], ∅⟩ where
  documents := rfl
  places key place := by simp
  descending key := by simp

/-- One more document goes to the next place, under the keys it is found under. -/
theorem add (h : Faithful lookup seen index) (document : Fields) :
    Faithful lookup (seen ++ [document]) (index.add lookup document) where
  documents := by
    show (index.documents.push document).toList = seen ++ [document]
    rw [Array.toList_push, h.documents]
  places key place := by
    show place ∈ ((lookup.foreignKeys document).foldl (addPlace index.documents.size)
      index.places).getD key [] ↔ _
    rw [mem_addPlaces, h.places, h.size_eq]
    -- earlier places keep their documents, the next one gets this document, later ones have none
    rcases Nat.lt_trichotomy place seen.length with hlt | rfl | hgt
    · rw [List.getElem?_append_left hlt]
      exact or_iff_left fun hnew => absurd hnew.1 (Nat.ne_of_lt hlt)
    · rw [List.getElem?_concat_length, List.getElem?_eq_none (Nat.le_refl _)]
      simp
    · rw [List.getElem?_eq_none (Nat.le_of_lt hgt), List.getElem?_eq_none (by simp; omega)]
      simp only [reduceCtorEq, false_and, exists_false, false_or, iff_false]
      exact fun hnew => absurd hnew.1 (Nat.ne_of_gt hgt)
  descending key := by
    have hbound : Descending index.documents.size index.places := fun key =>
      ⟨h.descending key, fun place hm => Nat.le_of_lt (h.size_eq ▸ h.lt_length hm)⟩
    exact (hbound.addPlaces (lookup.foreignKeys document) key).1

/-- **The loop over the foreign documents** keeps the index faithful to all that were seen. -/
theorem foldl_add (h : Faithful lookup seen index) (documents : List Fields) :
    Faithful lookup (seen ++ documents) (documents.foldl (ForeignIndex.add lookup) index) := by
  induction documents generalizing seen index with
  | nil => rwa [List.append_nil]
  | cons document rest ih =>
      have hrest := ih (h.add document)
      rwa [List.append_assoc] at hrest

end Faithful

/-- **The index of a collection is faithful to it.** -/
theorem faithful_build (lookup : Lookup) (snapshot : List Fields) :
    Faithful lookup snapshot (build lookup snapshot) :=
  (Faithful.empty lookup).foldl_add snapshot

/-! ## Places in order -/

theorem mem_distinct {place : Nat} {places : List Nat} : place ∈ distinct places ↔ place ∈ places := by
  induction places with
  | nil => rfl
  | cons first rest ih =>
      unfold distinct
      rw [List.mem_cons, ← ih]
      split
      · next hnil => rw [hnil, List.mem_singleton]; simp
      · next next later hcons =>
          rw [hcons]
          split
          · next heq => rw [heq, List.mem_cons, or_self_left]
          · rw [List.mem_cons]

/-- Without repetitions an ascending list ascends strictly. -/
theorem distinct_ascending {places : List Nat} (h : places.Pairwise (· ≤ ·)) :
    (distinct places).Pairwise (· < ·) := by
  induction places with
  | nil => exact .nil
  | cons first rest ih =>
      obtain ⟨hfirst, hrest⟩ := List.pairwise_cons.mp h
      have hascending := ih hrest
      have hle : ∀ place ∈ distinct rest, first ≤ place := fun place hm =>
        hfirst place (mem_distinct.mp hm)
      unfold distinct
      split
      · exact List.pairwise_singleton _ _
      · next next later hcons =>
          rw [hcons] at hascending hle
          split
          · exact hascending
          · next hne =>
              refine List.pairwise_cons.mpr ⟨fun place hm => ?_, hascending⟩
              have hlt : first < next := Nat.lt_of_le_of_ne (hle next (List.mem_cons_self ..)) hne
              rcases List.mem_cons.mp hm with rfl | hm
              · exact hlt
              · exact Nat.lt_trans hlt ((List.pairwise_cons.mp hascending).1 place hm)

theorem mem_hits {index : ForeignIndex} {keys : List ValueKey} {place : Nat} :
    place ∈ index.hits keys ↔ ∃ key ∈ keys, place ∈ index.places.getD key [] := by
  unfold hits
  rw [mem_distinct, List.mem_mergeSort, List.mem_flatMap]

/-- Hits come in the order of their places, each once. -/
theorem hits_ascending (index : ForeignIndex) (keys : List ValueKey) :
    (index.hits keys).Pairwise (· < ·) := by
  let found := keys.flatMap fun key => index.places.getD key []
  have hsorted : found.mergeSort.Pairwise fun a b => decide (a ≤ b) = true :=
    List.pairwise_mergeSort (by simpa using fun a b c => Nat.le_trans) (by simpa using Nat.le_total) found
  exact distinct_ascending (hsorted.imp of_decide_eq_true)

theorem filterMap_range_getElem? {α β : Type} (f : α → Option β) (xs : List α) :
    (List.range xs.length).filterMap (fun place => xs[place]?.bind f) = xs.filterMap f := by
  induction xs with
  | nil => rfl
  | cons x xs ih =>
      rw [List.length_cons, List.range_succ_eq_map, List.filterMap_cons, List.filterMap_cons,
        List.filterMap_map]
      have hrest : ((fun place => (x :: xs)[place]?.bind f) ∘ Nat.succ) =
          fun place => xs[place]?.bind f := rfl
      rw [hrest, ih]
      rfl

/-- **Selecting by place is filtering.** Strictly ascending places of exactly the items that pass a test
select those items in their order, each once. -/
theorem filterMap_getElem?_of_ascending {α : Type} {p : α → Bool} {places : List Nat} {xs : List α}
    (hascending : places.Pairwise (· < ·))
    (hmem : ∀ place, place ∈ places ↔ ∃ x, xs[place]? = some x ∧ p x = true) :
    places.filterMap (fun place => xs[place]?) = xs.filter p := by
  have hplaces : places = (List.range xs.length).filter fun place => xs[place]?.any p := by
    have hrange := List.pairwise_lt_range (n := xs.length).filter fun place => xs[place]?.any p
    -- two strictly ascending lists with the same members are one
    refine List.Perm.eq_of_pairwise (fun a b _ _ hab hba => absurd hab (Nat.lt_asymm hba))
      hascending hrange ?_
    rw [List.perm_ext_iff_of_nodup (hascending.imp Nat.ne_of_lt) (hrange.imp Nat.ne_of_lt)]
    intro place
    rw [hmem, List.mem_filter, List.mem_range, Option.any_eq_true]
    constructor
    · rintro ⟨x, hx, hp⟩
      exact ⟨(List.getElem?_eq_some_iff.mp hx).1, x, hx, hp⟩
    · exact fun ⟨_, h⟩ => h
  calc places.filterMap (fun place => xs[place]?)
      = (List.range xs.length).filterMap (fun place => xs[place]?.bind (Option.guard p)) := by
        rw [hplaces, List.filterMap_filter]
        refine congrArg (List.filterMap · _) (funext fun place => ?_)
        cases xs[place]? with
        | none => rfl
        | some x => simp [Option.guard]
    _ = xs.filterMap (Option.guard p) := filterMap_range_getElem? _ xs
    _ = xs.filter p := congrFun List.filterMap_eq_filter xs

/-! ## Joining -/

/-- **The documents of some keys** are the documents found under one of them, in their order. -/
theorem matching_eq_filter {lookup : Lookup} {snapshot : List Fields} {index : ForeignIndex}
    (h : Faithful lookup snapshot index) (keys : List ValueKey) :
    index.matching keys =
      snapshot.filter fun foreign => decide (∃ key ∈ keys, key ∈ lookup.foreignKeys foreign) := by
  unfold matching
  have hget : (fun place : Nat => index.documents[place]?) = fun place => snapshot[place]? := by
    funext place
    rw [← h.documents, Array.getElem?_toList]
  rw [hget]
  refine filterMap_getElem?_of_ascending (hits_ascending index keys) fun place => ?_
  rw [mem_hits]
  simp only [h.places, decide_eq_true_eq]
  constructor
  · rintro ⟨key, hkey, foreign, hforeign, hfound⟩
    exact ⟨foreign, hforeign, key, hkey, hfound⟩
  · rintro ⟨foreign, hforeign, key, hkey, hfound⟩
    exact ⟨key, hkey, foreign, hforeign, hfound⟩

end ForeignIndex

/-- What a nested loop makes of a document: beside it all foreign documents that it joins, in the order of
their collection. -/
def Lookup.nestedLoop (lookup : Lookup) (snapshot : List Fields) (document : Fields) : Fields :=
  let joined := snapshot.filter fun foreign => lookup.Joins document foreign
  setPath document lookup.target (.array (joined.map .document))

/-- An index built over a collection joins what a nested loop joins. -/
theorem ForeignIndex.attach_build_eq (lookup : Lookup) (snapshot : List Fields) (document : Fields) :
    (build lookup snapshot).attach lookup document = lookup.nestedLoop snapshot document := by
  unfold attach Lookup.nestedLoop
  rw [matching_eq_filter (faithful_build lookup snapshot)]
  simp only [Lookup.joins_iff]

/-- **A lookup computes the nested loop.** Through the index of a collection a document gets exactly the
foreign documents that share a key with it, each once and in the order of the collection, or none in an
empty array if there are none; every place that the index names is one of the collection. A lookup stage
does so to each document and keeps them all in order, on lists and on demand. -/
theorem lookup_eq_nested_loop (lookup : Lookup) (snapshot : List Fields) (document : Fields) :
    (ForeignIndex.build lookup snapshot).attach lookup document =
      setPath document lookup.target (.array
        ((snapshot.filter fun foreign => lookup.Joins document foreign).map .document)) ∧
    ((∀ foreign ∈ snapshot, ¬lookup.Joins document foreign) →
      (ForeignIndex.build lookup snapshot).attach lookup document =
        setPath document lookup.target (.array [])) ∧
    (∀ keys, ∀ place ∈ (ForeignIndex.build lookup snapshot).hits keys,
      place < (ForeignIndex.build lookup snapshot).documents.size) ∧
    (∀ (snapshots : Snapshots) (documents : List Fields),
      snapshots.documents lookup.source = snapshot →
        (Stage.lookup lookup).onList snapshots documents =
          documents.map (lookup.nestedLoop snapshot) ∧
        ∀ feed : Feed, feed.PullsTo documents →
          ((Stage.lookup lookup).onFeed snapshots feed).PullsTo
            (documents.map (lookup.nestedLoop snapshot))) := by
  have hattach : (ForeignIndex.build lookup snapshot).attach lookup =
      lookup.nestedLoop snapshot := funext (ForeignIndex.attach_build_eq lookup snapshot)
  have hfaithful := ForeignIndex.faithful_build lookup snapshot
  refine ⟨congrFun hattach document, fun hnone => ?_, fun keys place hm => ?_, ?_⟩
  · rw [hattach]
    unfold Lookup.nestedLoop
    rw [List.filter_eq_nil_iff.mpr (by simpa using hnone)]
    rfl
  · obtain ⟨key, -, hplace⟩ := ForeignIndex.mem_hits.mp hm
    rw [hfaithful.size_eq]
    exact hfaithful.lt_length hplace
  · -- the stage builds its index once and attaches to each document
    rintro snapshots documents rfl
    constructor
    · show documents.map _ = documents.map _
      rw [hattach]
    · intro feed hfeed
      rw [Feed.pullsTo_iff] at hfeed ⊢
      show (feed.map _).toList = documents.map _
      rw [Feed.toList_map, hfeed, hattach]

end Docstore

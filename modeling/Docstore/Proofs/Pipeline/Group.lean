import Docstore.Proofs.Entries
import Docstore.Proofs.Pipeline.Execution
import Mathlib.Algebra.BigOperators.Ring.Finset
import Mathlib.Data.List.Induction

/-!
# `Docstore.Proofs.Pipeline.Group` — groups are the naive partition

A group means a partition: for each key, in the order in which the keys are first seen, the documents with
that key in the order of their arrival. It runs in one pass over all documents, with a hash table of places
in a growing array, and a bucket keeps no documents but tallies of them. The pass keeps an invariant
(`Buckets.Faithful`): the table has exactly the places of the keys seen so far, and in these places the array
has the tallies of the documents with these keys.

## Contents
- **Accepted names.** `nodup_of_outputsFault?`.
- **Accumulators.** `tallied_sum`, `tallied_count` and `tallied_first` say what tallying comes to.
- **The partition.** `Group.slots` and `Group.sharing`, and what one more document changes in them;
  `sum_length_sharing`.
- **One pass.** `Faithful.place` and `Faithful.tally` make one step, `Faithful.add`; `faithful_buckets` is the
  whole pass, `run_eq_map_slots` its result.
- **Rows.** `Group.Reports` says what a row tells of some documents; `run_eq_partition` puts all together.
-/

namespace Docstore

/-! ## Accepted names -/

/-- Accepted names are distinct, none of them `_id` and none there before. -/
theorem nodup_of_outputsFault? {earlier names : List String} (h : outputsFault? earlier names = none) :
    names.Nodup ∧ ∀ name ∈ names, name ≠ "_id" ∧ name ∉ earlier := by
  induction names generalizing earlier with
  | nil => exact ⟨.nil, nofun⟩
  | cons name rest ih =>
      unfold outputsFault? at h
      obtain ⟨hname, hrest⟩ := Option.or_eq_none_iff.mp h
      obtain ⟨hnodup, hothers⟩ := ih hrest
      have hfirst : name ≠ "_id" ∧ name ∉ earlier := by
        unfold outputFault? at hname
        split_ifs at hname with _ hreserved hearlier
        exact ⟨hreserved, by simpa using hearlier⟩
      constructor
      · refine List.nodup_cons.mpr ⟨fun hm => ?_, hnodup⟩
        exact (hothers name hm).2 (List.mem_cons_self ..)
      · intro other hm
        rcases List.mem_cons.mp hm with rfl | hm
        · exact hfirst
        · exact ⟨(hothers other hm).1, fun hearlier =>
            (hothers other hm).2 (List.mem_cons_of_mem _ hearlier)⟩

/-! ## Accumulators -/

/-- A number that fits 32 bits is not changed by writing it down in them. -/
theorem Value.toInt_toInt32 {n : Int64}
    (h : Int32.minValue.toInt ≤ n.toInt ∧ n.toInt ≤ Int32.maxValue.toInt) : n.toInt32.toInt = n.toInt := by
  rw [Int32.toInt_minValue, Int32.toInt_maxValue] at h
  rw [Int64.toInt_toInt32]
  exact Int.bmod_eq_of_le (by omega) (by omega)

theorem Value.integer?_ofInt64 (n : Int64) : (ofInt64 n).integer? = some n := by
  unfold ofInt64
  split_ifs with h
  · refine congrArg some (Int64.toInt_inj.mp ?_)
    rw [Int32.toInt_toInt64, toInt_toInt32 h]
  · rfl

theorem Total.add_of_integer {value : Value} {n : Int64} (h : value.integer? = some n) (total : Total) :
    total.add value = total.addInteger n.toInt := by
  unfold add
  rw [h]

namespace Accumulator

variable {members : List Fields} {one : Value}

/-- What an accumulator knows after some documents, one after the other. -/
def tallied (members : List Fields) (accumulator : Accumulator) : Tally :=
  members.foldl (fun tally document => accumulator.update document tally) accumulator.start

theorem tallied_concat (members : List Fields) (document : Fields) (accumulator : Accumulator) :
    accumulator.tallied (members ++ [document]) =
      accumulator.update document (accumulator.tallied members) := by
  unfold tallied
  rw [List.foldl_concat]

/-- **A sum adds up the values that are not missing,** in the order of the documents. -/
theorem tallied_sum (expression : Expression) (members : List Fields) :
    (sum expression).tallied members =
      .sum ((members.filterMap expression.eval).foldl Total.add (.whole 0)) := by
  induction members using List.reverseRecOn with
  | nil => rfl
  | append_singleton members document ih =>
      rw [tallied_concat, ih, List.filterMap_append, List.foldl_append]
      cases hvalue : expression.eval document with
      | none => simp [update, hvalue]
      | some value => simp [update, hvalue]

/-- **A count counts the documents.** -/
theorem tallied_count (members : List Fields) :
    count.tallied members = .count (Int64.ofNat members.length) := by
  induction members using List.reverseRecOn with
  | nil => rfl
  | append_singleton members document ih =>
      rw [tallied_concat, ih, List.length_append, List.length_singleton, Int64.ofNat_add]
      rfl

/-- **A first value stays** once it is not missing. -/
theorem tallied_first (expression : Expression) (members : List Fields) :
    (first expression).tallied members = .first (members.filterMap expression.eval).head? := by
  induction members using List.reverseRecOn with
  | nil => rfl
  | append_singleton members document ih =>
      rw [tallied_concat, ih, List.filterMap_append, List.head?_append]
      cases (members.filterMap expression.eval).head? with
      | some value => rfl
      | none =>
          show Tally.first (expression.eval document) = _
          cases hvalue : expression.eval document with
          | none => simp [hvalue]
          | some value => simp [hvalue]

/-- A count is the number of documents, as far as that fits 64 bits. -/
theorem toInt_count (h : (members.length : Int) ≤ Double.int64High) :
    (count.tallied members).value.integer?.map Int64.toInt = some (members.length : Int) := by
  unfold Double.int64High at h
  rw [tallied_count]
  show (Value.ofInt64 _).integer?.map Int64.toInt = _
  rw [Value.integer?_ofInt64, Option.map_some, Int64.toInt_ofNat_of_lt (by omega)]

/-- To add one after one is to count. -/
theorem foldl_add_one (hone : one.integer? = some 1) {sum : Int} {times : Nat} (hsum : 0 ≤ sum)
    (h : sum + times ≤ Double.int64High) :
    (List.replicate times one).foldl Total.add (.whole sum) = .whole (sum + times) := by
  induction times generalizing sum with
  | zero => simp
  | succ times ih =>
      have hstep : Total.add (.whole sum) one = .whole (sum + 1) := by
        have hlow : Double.int64Low ≤ sum + 1 := by unfold Double.int64Low; omega
        have hhigh : sum + 1 ≤ Double.int64High := by omega
        rw [Total.add_of_integer hone]
        exact if_pos ⟨hlow, hhigh⟩
      have hshift : sum + 1 + (times : Int) = sum + ((times + 1 : Nat) : Int) := by omega
      rw [List.replicate_succ, List.foldl_cons, hstep, ih (by omega) (by omega), hshift]

/-- **A count is the sum of a literal one,** as far as it fits 64 bits. -/
theorem count_eq_sum (hone : one.integer? = some 1) (h : (members.length : Int) ≤ Double.int64High) :
    (count.tallied members).value = ((sum (.literal one)).tallied members).value := by
  have hones : members.filterMap (Expression.literal one).eval = List.replicate members.length one := by
    rw [← List.map_const, ← List.filterMap_eq_map']
    rfl
  rw [tallied_count, tallied_sum, hones, foldl_add_one hone (Int.le_refl 0) (by omega), Int.zero_add]
  rfl

end Accumulator

namespace Group

variable {group : Group} {seen documents : List Fields} {document : Fields} {key : ValueKey}

/-! ## The partition -/

/-- The key under which a document is entered. -/
def slot (group : Group) (document : Fields) : ValueKey := .of (group.keyOf document)

/-- The keys of some documents, each once, in the order in which they are first seen. -/
def slots (group : Group) (documents : List Fields) : List ValueKey :=
  (documents.map group.slot).eraseDups

/-- The documents with a key, in the order of their arrival. -/
def sharing (group : Group) (documents : List Fields) (key : ValueKey) : List Fields :=
  documents.filter fun document => group.slot document = key

theorem mem_slots : key ∈ group.slots documents ↔ ∃ document ∈ documents, group.slot document = key := by
  unfold slots
  rw [List.mem_eraseDups, List.mem_map]

theorem slots_concat (group : Group) (seen : List Fields) (document : Fields) :
    group.slots (seen ++ [document]) =
      if group.slot document ∈ group.slots seen then group.slots seen
      else group.slots seen ++ [group.slot document] := by
  unfold slots
  rw [List.map_append, List.map_singleton, List.eraseDups_append]
  split_ifs with h
  · have hold : group.slot document ∈ seen.map group.slot := List.mem_eraseDups.mp h
    rw [List.removeAll, List.filter_cons_of_neg (by simpa using hold), List.filter_nil,
      List.eraseDups_nil, List.append_nil]
  · have hnew : group.slot document ∉ seen.map group.slot := fun hm => h (List.mem_eraseDups.mpr hm)
    rw [List.removeAll, List.filter_cons_of_pos (by simpa using hnew), List.filter_nil,
      List.eraseDups_cons, List.filter_nil, List.eraseDups_nil]

/-- **The keys are distinct and in the order of the first documents that have them.** -/
theorem slots_ordered (group : Group) (documents : List Fields) :
    (group.slots documents).Nodup ∧ (group.slots documents).Pairwise fun a b =>
      (documents.map group.slot).idxOf a < (documents.map group.slot).idxOf b := by
  induction documents using List.reverseRecOn with
  | nil => exact ⟨.nil, .nil⟩
  | append_singleton seen document ih =>
      obtain ⟨hnodup, hordered⟩ := ih
      have hmem : ∀ key ∈ group.slots seen, key ∈ seen.map group.slot := fun key hm =>
        List.mem_eraseDups.mp hm
      rw [slots_concat, List.map_append]
      split_ifs with h
      · exact ⟨hnodup, Entries.pairwise_idxOf_append _ hmem hordered⟩
      · have hnew : group.slot document ∉ seen.map group.slot := fun hm =>
          h (List.mem_eraseDups.mpr hm)
        refine ⟨?_, Entries.pairwise_idxOf_concat hmem hnew hordered⟩
        rw [← List.concat_eq_append]
        exact hnodup.concat h

theorem sharing_concat (group : Group) (seen : List Fields) (document : Fields) (key : ValueKey) :
    group.sharing (seen ++ [document]) key =
      if group.slot document = key then group.sharing seen key ++ [document]
      else group.sharing seen key := by
  unfold sharing
  rw [List.filter_append]
  split_ifs with h
  · simp [h]
  · simp [h]

theorem sharing_eq_nil_iff : group.sharing documents key = [] ↔ key ∉ group.slots documents := by
  rw [mem_slots]
  simp [sharing]

/-- The first document with a key stays the first. -/
theorem head?_sharing_concat (h : key ∈ group.slots seen) (document : Fields) :
    (group.sharing (seen ++ [document]) key).head? = (group.sharing seen key).head? := by
  have hsome : group.sharing seen key ≠ [] := fun hnil => sharing_eq_nil_iff.mp hnil h
  rw [sharing_concat]
  split_ifs
  · exact List.head?_append_of_ne_nil _ hsome
  · rfl

/-- The documents with some distinct keys, key by key, are the documents with one of these keys. -/
theorem flatMap_sharing_perm (group : Group) (documents : List Fields) {keys : List ValueKey}
    (h : keys.Nodup) :
    (keys.flatMap (group.sharing documents)).Perm
      (documents.filter fun document => group.slot document ∈ keys) := by
  induction keys with
  | nil => simp
  | cons key rest ih =>
      obtain ⟨hkey, hrest⟩ := List.nodup_cons.mp h
      -- the documents with one of the keys are those with the first and those with one of the others
      let either := documents.filter fun document => group.slot document ∈ key :: rest
      have hfirst : either.filter (fun document => group.slot document = key) =
          group.sharing documents key := by
        rw [List.filter_filter]
        refine List.filter_congr fun document _ => ?_
        simp +contextual
      have hothers : either.filter (fun document => !decide (group.slot document = key)) =
          documents.filter fun document => group.slot document ∈ rest := by
        rw [List.filter_filter]
        refine List.filter_congr fun document _ => ?_
        by_cases heq : group.slot document = key
        · simp [heq, hkey]
        · simp [heq]
      rw [List.flatMap_cons]
      refine (List.Perm.append_left _ (ih hrest)).trans ?_
      rw [← hfirst, ← hothers]
      exact List.filter_append_perm _ either

/-- **Every document is in exactly one bucket,** so their lengths add up to the number of documents. -/
theorem sum_length_sharing (group : Group) (documents : List Fields) :
    ((group.slots documents).map fun key => (group.sharing documents key).length).sum =
      documents.length := by
  have hall : documents.filter (fun document => group.slot document ∈ group.slots documents) =
      documents :=
    List.filter_eq_self.mpr fun document hm => decide_eq_true (mem_slots.mpr ⟨document, hm, rfl⟩)
  have hperm := flatMap_sharing_perm group documents (slots_ordered group documents).1
  rw [hall] at hperm
  rw [← hperm.length_eq, List.length_flatMap]

/-! ## One pass -/

/-- The bucket that some document opened and that has seen some documents. -/
def bucketOf (group : Group) (opening : Option Fields) (members : List Fields) : Bucket where
  key := (opening.map group.keyOf).getD .null
  tallies := group.fields.map fun field => field.2.tallied members

/-- A bucket that takes in a document has seen that document last. -/
theorem tally_bucketOf (group : Group) (document : Fields) (opening : Option Fields)
    (members : List Fields) : group.tally document (group.bucketOf opening members) =
      group.bucketOf opening (members ++ [document]) := by
  unfold tally bucketOf
  rw [List.zipWith_map_right, List.zipWith_self]
  simp only [Accumulator.tallied_concat]

namespace Buckets

/-- Buckets in the middle of the pass. The table has the places of the keys of all documents seen so far,
and in these places the array has their buckets, each opened by the first document with its key and with
those of the documents in it that are counted so far. -/
structure Faithful (group : Group) (seen counted : List Fields) (buckets : Buckets) : Prop where
  inOrder : buckets.inOrder.toList = (group.slots seen).map fun key =>
    group.bucketOf (group.sharing seen key).head? (group.sharing counted key)
  places (key : ValueKey) (place : Nat) :
    buckets.places[key]? = some place ↔ (group.slots seen)[place]? = some key

namespace Faithful

variable {counted : List Fields} {buckets : Buckets}

theorem empty (group : Group) : Faithful group [] [] .empty where
  inOrder := rfl
  places key place := by
    show (∅ : Std.HashMap ValueKey Nat)[key]? = some place ↔ ([] : List ValueKey)[place]? = some key
    simp

theorem size_eq (h : Faithful group seen counted buckets) :
    buckets.inOrder.size = (group.slots seen).length := by
  rw [← Array.length_toList, h.inOrder, List.length_map]

/-- A key that was seen has its place already. -/
theorem seen_again (h : Faithful group seen seen buckets)
    (hslot : group.slot document ∈ group.slots seen) :
    Faithful group (seen ++ [document]) seen buckets := by
  have hslots : group.slots (seen ++ [document]) = group.slots seen := by
    rw [slots_concat, if_pos hslot]
  refine ⟨?_, fun key place => ?_⟩
  · rw [h.inOrder, hslots]
    refine List.map_congr_left fun key hm => ?_
    rw [head?_sharing_concat hm]
  · rw [hslots]
    exact h.places key place

/-- A new key gets the next place, and there a bucket of no documents. -/
theorem seen_first (h : Faithful group seen seen buckets)
    (hslot : group.slot document ∉ group.slots seen) :
    Faithful group (seen ++ [document]) seen
      ⟨buckets.places.insert (group.slot document) buckets.inOrder.size,
        buckets.inOrder.push (group.newBucket (group.keyOf document))⟩ := by
  have hslots : group.slots (seen ++ [document]) = group.slots seen ++ [group.slot document] := by
    rw [slots_concat, if_neg hslot]
  refine ⟨?_, fun key place => ?_⟩
  · show (buckets.inOrder.push _).toList = _
    rw [Array.toList_push, h.inOrder, hslots, List.map_append, List.map_singleton]
    refine congrArg₂ (fun held opened => held ++ [opened]) (List.map_congr_left fun key hm => ?_) ?_
    · rw [head?_sharing_concat hm]
    · rw [sharing_concat, if_pos rfl, sharing_eq_nil_iff.mpr hslot]
      rfl
  · show (buckets.places.insert (group.slot document) buckets.inOrder.size)[key]? = some place ↔ _
    rw [Std.HashMap.getElem?_insert, hslots, h.size_eq]
    by_cases heq : group.slot document = key
    · subst heq
      rw [if_pos (beq_self_eq_true _), Option.some.injEq]
      constructor
      · rintro rfl
        exact List.getElem?_concat_length
      · -- the key is at no earlier place, as it is new
        intro hfound
        rcases Nat.lt_or_ge place (group.slots seen).length with hlt | hge
        · rw [List.getElem?_append_left hlt] at hfound
          exact absurd (List.mem_of_getElem? hfound) hslot
        · have hlt := (List.getElem?_eq_some_iff.mp hfound).1
          rw [List.length_append, List.length_singleton] at hlt
          omega
    · rw [if_neg (by simpa using heq), h.places]
      rcases Nat.lt_trichotomy place (group.slots seen).length with hlt | rfl | hgt
      · rw [List.getElem?_append_left hlt]
      · rw [List.getElem?_concat_length, List.getElem?_eq_none (Nat.le_refl _), Option.some.injEq]
        exact ⟨nofun, fun h => absurd h heq⟩
      · rw [List.getElem?_eq_none (Nat.le_of_lt hgt), List.getElem?_eq_none (by simp; omega)]

/-- **Finding the place of a document** makes the bucket of its key if there is none. -/
theorem place (h : Faithful group seen seen buckets) (document : Fields) :
    Faithful group (seen ++ [document]) seen (buckets.place group (group.keyOf document)).2 ∧
    (group.slots (seen ++ [document]))[(buckets.place group (group.keyOf document)).1]? =
      some (group.slot document) := by
  cases hplace : buckets.places[group.slot document]? with
  | some place =>
      -- the key was seen before, and its bucket has the place in the table
      have hfound : (group.slots seen)[place]? = some (group.slot document) := (h.places _ _).mp hplace
      have hslot : group.slot document ∈ group.slots seen := List.mem_of_getElem? hfound
      have hopen : buckets.place group (group.keyOf document) = (place, buckets) := by
        unfold slot at hplace
        simp only [Buckets.place, hplace]
      rw [hopen]
      refine ⟨h.seen_again hslot, ?_⟩
      rw [slots_concat, if_pos hslot]
      exact hfound
  | none =>
      -- the key is new: its bucket comes last
      have hslot : group.slot document ∉ group.slots seen := by
        intro hm
        obtain ⟨place, hfound⟩ := List.mem_iff_getElem?.mp hm
        rw [(h.places _ _).mpr hfound] at hplace
        exact nomatch hplace
      have hopen : buckets.place group (group.keyOf document) = (buckets.inOrder.size,
          ⟨buckets.places.insert (group.slot document) buckets.inOrder.size,
            buckets.inOrder.push (group.newBucket (group.keyOf document))⟩) := by
        unfold slot at hplace ⊢
        simp only [Buckets.place, hplace]
      rw [hopen]
      refine ⟨h.seen_first hslot, ?_⟩
      rw [slots_concat, if_neg hslot, h.size_eq]
      exact List.getElem?_concat_length

/-- **Counting a document** changes the bucket of its key and no other. -/
theorem tally (h : Faithful group seen counted buckets) {place : Nat}
    (hplace : (group.slots seen)[place]? = some (group.slot document)) :
    Faithful group seen (counted ++ [document])
      ⟨buckets.places, buckets.inOrder.modify place (group.tally document)⟩ := by
  refine ⟨?_, h.places⟩
  show (buckets.inOrder.modify place _).toList = _
  rw [Array.toList_modify, h.inOrder]
  refine List.ext_getElem? fun other => ?_
  rw [List.getElem?_modify, List.getElem?_map, List.getElem?_map]
  cases hother : (group.slots seen)[other]? with
  | none => rfl
  | some key =>
      by_cases heq : place = other
      · subst heq
        obtain rfl : group.slot document = key := Option.some.inj (hplace.symm.trans hother)
        simp [sharing_concat, tally_bucketOf]
      · -- no key has two places, so the key at the other place is another one
        have hne : group.slot document ≠ key := by
          rintro rfl
          have hlt := (List.getElem?_eq_some_iff.mp hplace).1
          exact heq ((List.getElem?_inj hlt (slots_ordered group seen).1).mp (hplace.trans hother.symm))
        simp [sharing_concat, hne, heq]

/-- **One more document goes into the bucket of its key.** -/
theorem add (h : Faithful group seen seen buckets) (document : Fields) :
    Faithful group (seen ++ [document]) (seen ++ [document]) (buckets.add group document) := by
  obtain ⟨hopened, hplace⟩ := h.place document
  exact hopened.tally hplace

end Faithful

end Buckets

/-- **The buckets of some documents are faithful to them.** -/
theorem faithful_buckets (group : Group) (documents : List Fields) :
    Buckets.Faithful group documents documents (group.buckets documents) := by
  induction documents using List.reverseRecOn with
  | nil => exact .empty group
  | append_singleton seen document ih =>
      have hlast := ih.add document
      unfold buckets at hlast ⊢
      rwa [List.foldl_concat]

/-- What a group makes of the documents of one bucket. -/
def row (group : Group) (members : List Fields) : Fields :=
  group.summary (group.bucketOf members.head? members)

/-- **The pass computes the partition.** -/
theorem run_eq_map_slots (group : Group) (documents : List Fields) :
    group.run documents =
      (group.slots documents).map fun key => group.row (group.sharing documents key) := by
  unfold run
  rw [(faithful_buckets group documents).inOrder, List.map_map]
  rfl

/-! ## Rows -/

/-- **An accepted group names nothing twice,** and nothing as it names the key. -/
theorem nodup_names_of_fault? (h : (Stage.group group).fault? = none) :
    ("_id" :: Entries.names group.fields).Nodup := by
  have houtputs : outputsFault? [] (Entries.names group.fields) = none := h
  obtain ⟨hnodup, hnames⟩ := nodup_of_outputsFault? houtputs
  exact List.nodup_cons.mpr ⟨fun hm => (hnames _ hm).1 rfl, hnodup⟩

/-- The row of an accepted group has the key and the declared fields, each after those before it. -/
theorem row_eq (h : (Stage.group group).fault? = none) (members : List Fields) :
    group.row members = ("_id", (members.head?.map group.keyOf).getD .null) ::
      group.fields.map fun field => (field.1, (field.2.tallied members).value) := by
  let entries := group.fields.map fun field => (field.1, (field.2.tallied members).value)
  have hnames : (Entries.names
      ([("_id", (members.head?.map group.keyOf).getD .null)] ++ entries)).Nodup := by
    show ("_id" :: Entries.names entries).Nodup
    rw [Entries.names_map]
    exact nodup_names_of_fault? h
  have hfolded := Entries.foldl_insert_of_nodup hnames
  unfold row summary bucketOf
  rw [List.zip_eq_zipWith, List.zipWith_map_right, List.zipWith_self, List.foldl_map]
  rwa [List.foldl_map] at hfolded

theorem names_row (h : (Stage.group group).fault? = none) (members : List Fields) :
    Entries.names (group.row members) = "_id" :: Entries.names group.fields := by
  rw [row_eq h]
  exact congrArg _ (Entries.names_map _ group.fields)

/-- Under a declared name is what its accumulator makes of the documents. -/
theorem get?_row (h : (Stage.group group).fault? = none) {members : List Fields} {name : String}
    {accumulator : Accumulator} (hm : (name, accumulator) ∈ group.fields) :
    Entries.get? name (group.row members) = some (accumulator.tallied members).value := by
  have hnodup : (Entries.names (group.row members)).Nodup := by
    rw [names_row h]
    exact nodup_names_of_fault? h
  refine Entries.get?_of_mem hnodup ?_
  rw [row_eq h]
  exact List.mem_cons_of_mem _ (List.mem_map_of_mem hm)

/-- What a row tells of the documents of its bucket: it has the key and the declared fields and nothing
else, the key of the first document, and what each accumulator makes of all of them in their order. -/
structure Reports (group : Group) (members : List Fields) (row : Fields) : Prop where
  names : Entries.names row = "_id" :: Entries.names group.fields
  nodup : (Entries.names row).Nodup
  key : ∃ first rest, members = first :: rest ∧
    Entries.get? "_id" row = some ((group.key.eval first).getD .null)
  sum (name : String) (expression : Expression) (h : (name, .sum expression) ∈ group.fields) :
    Entries.get? name row =
      some ((members.filterMap expression.eval).foldl Total.add (.whole 0)).value
  first (name : String) (expression : Expression) (h : (name, .first expression) ∈ group.fields) :
    Entries.get? name row = some ((members.filterMap expression.eval).head?.getD .null)
  /-- A count is an integer and the number of documents; it is what a sum of ones would be. -/
  count (name : String) (h : (name, .count) ∈ group.fields)
    (hfits : (members.length : Int) ≤ Double.int64High) :
    ((Entries.get? name row).bind Value.integer?).map Int64.toInt = some (members.length : Int) ∧
    ∀ one : Value, one.integer? = some 1 →
      Entries.get? name row = some ((Accumulator.sum (.literal one)).tallied members).value

/-- **The row of a bucket reports its documents,** if the group is accepted. -/
theorem reports_row (h : (Stage.group group).fault? = none) {members : List Fields}
    (hmembers : members ≠ []) : group.Reports members (group.row members) where
  names := names_row h members
  nodup := by
    rw [names_row h]
    exact nodup_names_of_fault? h
  key := by
    -- a bucket is opened by its first document, which gives it its key
    obtain ⟨first, rest, rfl⟩ := List.exists_cons_of_ne_nil hmembers
    refine ⟨first, rest, rfl, ?_⟩
    rw [row_eq h]
    rfl
  sum name expression hm := by
    rw [get?_row h hm, Accumulator.tallied_sum]
    rfl
  first name expression hm := by
    rw [get?_row h hm, Accumulator.tallied_first]
    rfl
  count name hm hfits := by
    rw [get?_row h hm]
    exact ⟨Accumulator.toInt_count hfits, fun one hone =>
      congrArg some (Accumulator.count_eq_sum hone hfits)⟩

/-- The counts under a declared name add up to the number of documents. -/
theorem sum_counts (h : (Stage.group group).fault? = none) {name : String}
    (hm : (name, .count) ∈ group.fields) (hfits : (documents.length : Int) ≤ Double.int64High) :
    ((group.run documents).filterMap fun row =>
      ((Entries.get? name row).bind Value.integer?).map Int64.toInt).sum = documents.length := by
  -- no bucket has more documents than there are, so every count fits
  have hcount : ∀ key, ((Entries.get? name (group.row (group.sharing documents key))).bind
      Value.integer?).map Int64.toInt = some ((group.sharing documents key).length : Int) := by
    intro key
    have hle : (group.sharing documents key).length ≤ documents.length := List.length_filter_le _ _
    rw [get?_row h hm]
    exact Accumulator.toInt_count (by omega)
  rw [run_eq_map_slots, List.filterMap_map]
  simp only [Function.comp_def, hcount]
  rw [List.filterMap_eq_map', ← sum_length_sharing group documents, Nat.cast_list_sum, List.map_map]
  rfl

/-- **A group is the naive partition.** Let the group be a stage of an accepted list of stages. It makes one
row for each distinct key, in the order in which the keys are first seen, a missing key counting as null.
Each row reports the documents with its key, in the order of their arrival, and no others; and the counts
of all rows add up to the number of documents. Counts fit 64 bits, as the length of every list in memory
does. -/
theorem run_eq_partition {stages : List Stage} {pipeline : Pipeline}
    (h : Pipeline.ofStages stages = .ok pipeline) (hm : .group group ∈ stages)
    (documents : List Fields) :
    ((group.slots documents).Nodup ∧
      (∀ key, key ∈ group.slots documents ↔
        ∃ document ∈ documents, ValueKey.of ((group.key.eval document).getD .null) = key) ∧
      (group.slots documents).Pairwise fun a b =>
        (documents.map group.slot).idxOf a < (documents.map group.slot).idxOf b) ∧
    List.Forall₂ (fun key row => group.Reports (group.sharing documents key) row)
      (group.slots documents) (group.run documents) ∧
    ∀ name, (name, .count) ∈ group.fields → (documents.length : Int) ≤ Double.int64High →
      ((group.run documents).filterMap fun row =>
        ((Entries.get? name row).bind Value.integer?).map Int64.toInt).sum = documents.length := by
  have hfault : (Stage.group group).fault? = none := Pipeline.fault?_of_accepted h hm
  obtain ⟨hnodup, hordered⟩ := slots_ordered group documents
  refine ⟨⟨hnodup, fun key => mem_slots, hordered⟩, ?_, fun name hname => sum_counts hfault hname⟩
  rw [run_eq_map_slots, List.forall₂_map_right_iff, List.forall₂_same]
  intro key hkey
  -- a key that is listed has documents
  have hsome : group.sharing documents key ≠ [] := fun hnil => sharing_eq_nil_iff.mp hnil hkey
  exact reports_row hfault hsome

/-- Orders by customer: one and one are one customer, and two orders have none. -/
theorem run_eq_partition_orders :
    let group : Group := ⟨.field ⟨["customer"], by simp⟩, [("orders", .count),
      ("total", .sum (.field ⟨["price"], by simp⟩)), ("note", .first (.field ⟨["note"], by simp⟩))]⟩
    let documents : List Fields := [[("customer", .int32 1), ("price", .int32 2)], [("price", .int32 5)],
      [("customer", .int64 1), ("price", .int32 3), ("note", .string "soon")],
      [("customer", .null), ("price", .string "?")]]
    group.run documents = [
      [("_id", .int32 1), ("orders", .int32 2), ("total", .int32 5), ("note", .string "soon")],
      [("_id", .null), ("orders", .int32 2), ("total", .int32 5), ("note", .null)]] ∧
    ((group.run documents).filterMap fun row =>
      ((Entries.get? "orders" row).bind Value.integer?).map Int64.toInt).sum = 4 := by
  intro group documents
  have haccepted : Pipeline.ofStages [.group group] = .ok ⟨[.group group], _⟩ := rfl
  obtain ⟨-, -, hcounts⟩ :=
    run_eq_partition haccepted (List.mem_singleton.mpr rfl) documents
  refine ⟨?_, hcounts "orders" (by simp [group]) (by decide)⟩
  rw [run_eq_map_slots]
  rfl

end Group
end Docstore

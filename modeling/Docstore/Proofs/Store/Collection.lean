import Docstore.Proofs.Entries
import Docstore.Store.Collection
import Mathlib.Data.List.Nodup

/-!
# `Docstore.Proofs.Store.Collection` — records and their places

A collection keeps its records in an array and, beside it, the place of each identifier. `Collection.Sound`
says that the two belong together: an identifier has a place exactly if the record at that place has the
identifier. Since an identifier has one place, no two records share one; and looking a record up by
identifier finds the one that stands in the array. Adding and replacing a record keep this, and nothing
else changes a collection.

## Contents
- **Records.** `Record.Headed`: the fields begin with the identifier.
- **Sound collections.** `Sound`, `Sound.nodup_ids`, `Sound.find?_eq_some_iff`.
- **Steps.** `Sound.add`; `insert_cases` says all that an insertion can do; `insertAfter_cons`: a pass of the
  loop over a batch is an insertion; `Sound.replace?`.
-/

namespace Docstore

/-! ## Records -/

namespace Record

/-- The fields of a record begin with `_id`, which holds the identifier, and name `_id` nowhere else. -/
def Headed (record : Record) : Prop :=
  ∃ rest, record.fields = (idField, .objectId record.id) :: rest ∧ idField ∉ Entries.names rest

theorem headed_withId (id : ObjectId) (fields : Fields) : (withId id fields).Headed := by
  refine ⟨_, rfl, ?_⟩
  simp [Entries.names]

/-- The record of a document holds the document under an identifier. -/
theorem eq_withId_of_ofFields {supply : IdSupply} {fields : Fields} {record : Record}
    (h : (ofFields supply fields).1 = .ok record) : record = withId record.id fields := by
  unfold ofFields at h
  split at h
  · obtain rfl := Except.ok.inj h
    rfl
  · exact nomatch h
  · obtain rfl := Except.ok.inj h
    rfl

/-- A replacement that is allowed has the identifier that it replaces. -/
theorem eq_withId_of_replacing {id : ObjectId} {fields : Fields} {record : Record}
    (h : replacing id fields = .ok record) : record = withId id fields := by
  unfold replacing at h
  split at h
  · exact (Except.ok.inj h).symm
  · split at h
    · exact (Except.ok.inj h).symm
    · exact nomatch h
  · exact nomatch h

end Record

/-! ## Sound collections -/

namespace Collection

/-- **What keeps records and places together.** An identifier has a place exactly if the record at that
place has the identifier, and every record begins with its identifier. -/
structure Sound (collection : Collection) : Prop where
  places : ∀ id place, collection.places[id]? = some place ↔
    ∃ record : Record, collection.records[place]? = some record ∧ record.id = id
  headed : ∀ record ∈ collection.records.toList, record.Headed

theorem sound_empty : empty.Sound where
  places id place := by simp [empty]
  headed record hm := by simp [empty] at hm

namespace Sound

variable {collection : Collection} {record : Record} {id : ObjectId}

/-- No two records share an identifier. -/
theorem nodup_ids (h : collection.Sound) : (collection.records.toList.map (·.id)).Nodup := by
  rw [List.nodup_iff_getElem?_ne_getElem?]
  intro i j hij hj heq
  -- the two places would both be the one place of the identifier
  rw [List.getElem?_map, List.getElem?_map, Array.getElem?_toList, Array.getElem?_toList] at heq
  rw [List.length_map, Array.length_toList] at hj
  have hsecond := Array.getElem?_eq_getElem hj
  have hfirst := Array.getElem?_eq_getElem (Nat.lt_trans hij hj)
  rw [hfirst, hsecond, Option.map_some, Option.map_some, Option.some.injEq] at heq
  have hplacej := (h.places _ j).mpr ⟨_, hsecond, rfl⟩
  have hplacei := (h.places _ i).mpr ⟨_, hfirst, heq⟩
  rw [hplacei] at hplacej
  exact absurd (Option.some.inj hplacej) (Nat.ne_of_lt hij)

/-- **Looking up finds what stands in the collection,** and nothing else. -/
theorem find?_eq_some_iff (h : collection.Sound) :
    collection.find? id = some record ↔ record ∈ collection.records.toList ∧ record.id = id := by
  unfold find?
  rw [Option.bind_eq_some_iff]
  constructor
  · rintro ⟨place, hplace, hrecord⟩
    obtain ⟨other, hother, hid⟩ := (h.places id place).mp hplace
    rw [hrecord] at hother
    obtain rfl := Option.some.inj hother
    exact ⟨Array.mem_toList_iff.mpr (Array.mem_of_getElem? hrecord), hid⟩
  · rintro ⟨hm, hid⟩
    obtain ⟨place, hrecord⟩ := Array.mem_iff_getElem?.mp (Array.mem_toList_iff.mp hm)
    exact ⟨place, (h.places id place).mpr ⟨record, hrecord, hid⟩, hrecord⟩

end Sound

/-! ## Steps -/

theorem records_add (collection : Collection) (record : Record) :
    (collection.add record).records.toList = collection.records.toList ++ [record] :=
  Array.toList_push

/-- A record whose identifier is not taken goes to the next place. -/
theorem Sound.add {collection : Collection} {record : Record} (h : collection.Sound)
    (hfree : collection.holds record.id = false) (hheaded : record.Headed) :
    (collection.add record).Sound where
  places id place := by
    show (collection.places.insert record.id collection.records.size)[id]? = some place ↔
      ∃ found, (collection.records.push record)[place]? = some found ∧ found.id = id
    rw [Std.HashMap.getElem?_insert, Array.getElem?_push]
    by_cases hlast : place = collection.records.size
    · -- the new place is that of the new record, and of no other
      subst hlast
      have hempty : collection.records[collection.records.size]? = none := Array.getElem?_size
      have hnone : collection.places[id]? ≠ some collection.records.size := by
        intro hplace
        obtain ⟨other, hother, _⟩ := (h.places id _).mp hplace
        rw [hempty] at hother
        exact nomatch hother
      simp [hnone]
    · rw [if_neg hlast, ← h.places]
      by_cases hid : record.id = id
      · -- the identifier had no place before
        subst hid
        have hnone : collection.places[record.id]? = none := by
          unfold holds at hfree
          rwa [Std.HashMap.contains_eq_isSome_getElem?, Option.isSome_eq_false_iff,
            Option.isNone_iff_eq_none] at hfree
        simp [hnone, Ne.symm hlast]
      · simp [hid]
  headed other hm := by
    rw [records_add, List.mem_append, List.mem_singleton] at hm
    rcases hm with hm | rfl
    · exact h.headed other hm
    · exact hheaded

/-- **What an insertion can do.** It is refused and leaves the collection as it is, or it adds the document
at the end, under an identifier that is not taken. -/
theorem insert_cases (collection : Collection) (supply : IdSupply) (fields : Fields) :
    (∃ refusal, (collection.insert supply fields).result = .error refusal ∧
      (collection.insert supply fields).collection = collection) ∨
    (∃ id, (collection.insert supply fields).result = .ok id ∧ collection.holds id = false ∧
      (collection.insert supply fields).collection = collection.add (.withId id fields)) := by
  unfold insert
  split
  · next cause _ _ => exact .inl ⟨.invalid cause, rfl, rfl⟩
  · next record _ hrecord =>
      have hfields : record = .withId record.id fields :=
        Record.eq_withId_of_ofFields (congrArg Prod.fst hrecord)
      split
      · exact .inl ⟨.duplicate record.id, rfl, rfl⟩
      · next hfree =>
          refine .inr ⟨record.id, rfl, Bool.eq_false_iff.mpr hfree, ?_⟩
          rw [← hfields]

/-- An identifier is refused as a duplicate if there is a record of it. -/
theorem holds_of_duplicate {collection : Collection} {supply : IdSupply} {fields : Fields} {id : ObjectId}
    (h : (collection.insert supply fields).result = .error (.duplicate id)) : collection.holds id = true := by
  unfold insert at h
  split at h
  · exact nomatch h
  · split at h
    · next hheld =>
        obtain rfl := Collection.Refusal.duplicate.inj (Except.error.inj h)
        exact hheld
    · exact nomatch h

/-- **One pass of the loop over a batch** does to the collection what the insertion of a document does. If the
document is refused, the loop ends at its position; otherwise it goes on at the next one, with one more
identifier. -/
theorem insertAfter_cons (collection : Collection) (supply : IdSupply) (position : Nat)
    (inserted : List ObjectId) (fields : Fields) (rest : List Fields) :
    collection.insertAfter position inserted supply (fields :: rest) =
      match collection.insert supply fields with
      | ⟨.error refusal, collection, supply⟩ => ⟨inserted, some (position, refusal), collection, supply⟩
      | ⟨.ok id, collection, supply⟩ =>
        collection.insertAfter (position + 1) (id :: inserted) supply rest := by
  rw [insertAfter, insert]
  rcases Record.ofFields supply fields with ⟨cause | record, supply⟩
  · rfl
  · cases hholds : collection.holds record.id <;> simp [hholds]

/-- **What a replacement does.** The record with the identifier gives way to the new one, in its place. -/
theorem Sound.replace? {collection replaced : Collection} {record : Record} (h : collection.Sound)
    (hheaded : record.Headed) (hreplaced : collection.replace? record = some replaced) :
    replaced.Sound ∧ ∃ before old rest, collection.records.toList = before ++ old :: rest ∧
      old.id = record.id ∧ replaced.records.toList = before ++ record :: rest := by
  unfold Collection.replace? at hreplaced
  split at hreplaced
  · exact nomatch hreplaced
  next place hplace =>
  obtain rfl := Option.some.inj hreplaced
  obtain ⟨old, hold, hid⟩ := (h.places _ place).mp hplace
  obtain ⟨hbound, hget⟩ := Array.getElem?_eq_some_iff.mp hold
  have hlt : place < collection.records.toList.length := by
    rwa [Array.length_toList]
  have hset : (collection.records.setIfInBounds place record).toList =
      collection.records.toList.take place ++ record :: collection.records.toList.drop (place + 1) := by
    rw [Array.toList_setIfInBounds, List.set_eq_take_append_cons_drop, if_pos hlt]
  have hsplit : collection.records.toList =
      collection.records.toList.take place ++ old :: collection.records.toList.drop (place + 1) := by
    rw [← hget, ← Array.getElem_toList, List.getElem_cons_drop, List.take_append_drop]
  refine ⟨⟨?_, ?_⟩, _, old, _, hsplit, hid, hset⟩
  · intro id other
    show collection.places[id]? = some other ↔
      ∃ found, (collection.records.setIfInBounds place record)[other]? = some found ∧ found.id = id
    rw [h.places, Array.getElem?_setIfInBounds]
    by_cases hother : place = other
    · -- at the place itself the identifier is the same as before
      subst hother
      simp [hbound, hget, hid]
    · simp [hother]
  · intro found hm
    rw [hset, List.mem_append, List.mem_cons] at hm
    rcases hm with hm | rfl | hm
    · exact h.headed found (List.mem_of_mem_take hm)
    · exact hheaded
    · exact h.headed found (List.mem_of_mem_drop hm)

end Collection
end Docstore

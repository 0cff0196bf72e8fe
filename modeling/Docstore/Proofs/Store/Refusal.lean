import Docstore.Proofs.Store.Database

/-!
# `Docstore.Proofs.Store.Refusal` — what a refused insertion leaves behind

An insertion makes sure that its collection is there before it looks at the document. So a document that is
refused is not seen anywhere afterwards, but the name of the collection is: a database that did not have the
collection has it then, without a document. Where the collection was there nothing changes at all, and so it
is whenever an identifier was taken, for an identifier is taken only in a collection that is there.

## Contents
- **Names.** `pairwise_names`: they are in order; `create_of_mem`, `create_of_notMem`: what comes up when a
  collection is created.
- **Refusals.** `mem_names_of_duplicate`, and `refused_insertion_keeps_contents` with a collection that comes
  up empty.
-/

namespace Docstore.Database

variable {database : Database} {name : String}

/-! ## Names -/

theorem mem_names : name ∈ database.names ↔ name ∈ Entries.names database.collections :=
  List.mem_mergeSort

theorem pairwise_names (database : Database) :
    database.names.Pairwise fun first second => (compare first second).isLE = true := by
  have horder : ∀ first second : String,
      (compare first second != .gt) = (compare first second).isLE := by
    intro first second
    cases compare first second <;> rfl
  unfold names
  simp only [horder]
  refine List.pairwise_mergeSort ?_ ?_ _
  · intro first second third
    exact Std.TransOrd.isLE_trans
  · intro first second
    rw [Std.OrientedOrd.eq_swap (a := second)]
    cases compare first second <;> rfl

/-- The same names in order stand in one way only. -/
theorem eq_of_perm_of_pairwise {listed others : List String} (hperm : listed.Perm others)
    (hlisted : listed.Pairwise fun first second => (compare first second).isLE = true)
    (hothers : others.Pairwise fun first second => (compare first second).isLE = true) :
    listed = others := by
  refine hperm.eq_of_pairwise ?_ hlisted hothers
  intro first second _ _ hle hge
  exact Std.LawfulEqOrd.eq_of_compare (Std.OrientedCmp.isLE_antisymm hle hge)

/-- Making sure that a collection is there changes nothing if it is. -/
theorem create_of_mem (h : name ∈ database.names) : database.create name = database := by
  rw [mem_names, ← Entries.has_iff] at h
  rw [create, if_pos h]

/-- A collection that was not there comes up empty, and adds its name to the others. -/
theorem create_of_notMem (h : name ∉ database.names) :
    (database.create name).collection? name = some .empty ∧
    name ∈ (database.create name).names ∧ (database.create name).names.erase name = database.names := by
  rw [mem_names] at h
  have hmissing : ¬Entries.has name database.collections = true := by rwa [Entries.has_iff]
  have hcreated : database.create name = database.put name .empty := by
    rw [create, if_neg hmissing, put, Entries.insert_of_notMem _ h]
  have hlisted : Entries.names (database.put name .empty).collections =
      Entries.names database.collections ++ [name] := by
    rw [put, Entries.names_insert, if_neg h]
  rw [hcreated]
  refine ⟨?_, ?_, ?_⟩
  · rw [collection?_put, if_pos rfl]
  · rw [mem_names, hlisted]
    exact List.mem_append_right _ List.mem_cons_self
  · have hsame : ((database.put name .empty).names.erase name).Perm
        ((Entries.names (database.put name .empty).collections).erase name) :=
      (List.mergeSort_perm _ _).erase name
    rw [hlisted, List.erase_append_right _ h, List.erase_cons_head, List.append_nil] at hsame
    -- both lists are in order, so it is enough that they have the same names
    exact eq_of_perm_of_pairwise (hsame.trans (List.mergeSort_perm _ _).symm)
      ((pairwise_names _).erase name) (pairwise_names database)

/-! ## Refusals -/

variable {fields : Fields} {activity : Activity} {error : StoreError}

/-- An identifier that is taken is taken in a collection that is there. -/
theorem mem_names_of_duplicate {holder : String} {id : ObjectId} {position inserted : Nat}
    (h : (database.insertOne name fields activity).result =
      .error (.duplicateId holder id position inserted)) : name ∈ database.names := by
  rcases hinsertion : (database.held name).insert activity.supply fields with ⟨result, collection, supply⟩
  rw [(insertOne_of_insert hinsertion).1] at h
  rcases result with (cause | taken) | found
  · cases h
  · have hholds : (database.held name).holds taken = true :=
      Collection.holds_of_duplicate (congrArg Collection.Insertion.result hinsertion)
    -- what is not there holds nothing, so no identifier is taken in it
    by_contra hmissing
    rw [mem_names, ← Entries.get?_eq_none_iff] at hmissing
    rw [held, collection?, hmissing, Option.getD_none] at hholds
    exact absurd hholds (by simp [Collection.holds, Collection.empty])
  · cases h

/-- **Refused insertions.** After a document is refused every collection has the records that it had, and
every identifier finds what it found. Where the collection was there, as it was if the identifier is taken,
the database is what it was; otherwise the collection has come up empty and its name is the one new one. -/
theorem refused_insertion_keeps_contents
    (h : (database.insertOne name fields activity).result = .error error) :
    let after := (database.insertOne name fields activity).database
    (∀ other, after.scan other = database.scan other) ∧
    (∀ other id, after.findById other id = database.findById other id) ∧
    (name ∈ database.names → after = database) ∧
    (name ∉ database.names → after.collection? name = some .empty ∧ name ∈ after.names ∧
      after.names.erase name = database.names) ∧
    ∀ holder id position inserted, error = .duplicateId holder id position inserted →
      name ∈ database.names := by
  have hafter := database_insertOne_of_error h
  rw [hafter]
  refine ⟨?_, ?_, create_of_mem, create_of_notMem, ?_⟩
  · intro other
    exact scan_create database name
  · intro other id
    exact findById_create database name id
  · rintro holder id position inserted rfl
    exact mem_names_of_duplicate h

/-- A number for an identifier, beside a collection with one record. -/
theorem refused_insertion_keeps_contents_number :
    let record : Record := .withId (.ofNat 1) [("x", .int32 1)]
    let database : Database := (empty .standard).put "b" (Collection.empty.add record)
    let outcome := database.insertOne "a" [("_id", .int32 7)] (.start ⟨.ofNat 2⟩)
    outcome.result = .error (.invalidId (.notIdentifier (.int32 7))) ∧
    outcome.database.scan "b" = [record] ∧ outcome.database.scan "a" = [] ∧
    outcome.database.names.erase "a" = ["b"] := by
  intro record database outcome
  have hresult : outcome.result = .error (.invalidId (.notIdentifier (.int32 7))) := rfl
  have hnames : database.names = ["b"] := by decide +kernel
  have hmissing : "a" ∉ database.names := by
    rw [hnames]
    decide
  obtain ⟨hscan, -, -, hnew, -⟩ := refused_insertion_keeps_contents hresult
  obtain ⟨-, -, herase⟩ := hnew hmissing
  exact ⟨hresult, hscan "b", hscan "a", herase.trans hnames⟩

/-- A database without collections lists one after a document was refused. -/
theorem refused_insertion_lists_collection :
    let database : Database := empty .standard
    let outcome := database.insertOne "c" [("_id", .int32 7)] (.start ⟨.ofNat 1⟩)
    outcome.result = .error (.invalidId (.notIdentifier (.int32 7))) ∧
    database.names = [] ∧ outcome.database.names = ["c"] := by
  refine ⟨rfl, ?_, ?_⟩
  · decide +kernel
  · decide +kernel

end Docstore.Database

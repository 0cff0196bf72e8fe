import Docstore.Proofs.Store.Run
import Mathlib.Algebra.Ring.Nat

/-!
# `Docstore.Proofs.Store.Stored` — how many documents there are, and what calls count

The counters of a process know nothing of collections: each operation counts what it believes to have done.
`stored` counts the documents of a database by itself. The main statement compares both for every call, whether
it succeeds or fails: the call counts as many inserts as the database has more documents after it, and one
duplicate exactly if it returns the error about an identifier that is taken.

## Contents
- **Calls.** `Call.activityAfter`, `Call.error?`, `Counters.countCall`.
- **Documents.** `stored`, and one lemma for each operation. A collection that is put under a name takes the
  place of another in the sum (`sum_insert`, `stored_put`).
- **Counts.** `counters_insertOne`, `counters_insertMany`; `counters_call` for all calls.
-/

namespace Docstore

/-! ## Calls -/

/-- Is this the error about an identifier that is taken? -/
def StoreError.isDuplicate : StoreError → Bool
  | duplicateId _ _ _ _ => true
  | _ => false

/-- The error of a result. -/
def failure? {α ε : Type} : Except ε α → Option ε
  | .ok _ => none
  | .error cause => some cause

namespace Call

/-- The activity after a call. -/
def activityAfter (call : Call) (database : Database) : Activity :=
  match call.operation with
  | .insertOne fields => (database.insertOne call.collection fields call.activity).activity
  | .insertMany documents => (database.insertMany call.collection documents call.activity).activity
  | _ => call.activity

/-- The error that a call returns. -/
def error? (call : Call) (database : Database) : Option StoreError :=
  match call.operation with
  | .create => none
  | .remove => none
  | .insertOne fields => failure? (database.insertOne call.collection fields call.activity).result
  | .insertMany documents => failure? (database.insertMany call.collection documents call.activity).result
  | .replaceOne id fields => failure? (database.replaceOne call.collection id fields).1

end Call

/-- Counts the documents that a call adds, and its error if it is about an identifier that is taken. -/
def Counters.countCall (added : Nat) (error : Option StoreError) (counters : Counters) : Counters :=
  { counters with
    inserts := counters.inserts + added
    duplicateRejects := counters.duplicateRejects + (error.any StoreError.isDuplicate).toNat }

/-! ## Documents -/

namespace Entries

/-- A write adds the new value to a sum and takes the old one away. -/
theorem sum_insert {α : Type} (size : α → Nat) (name : String) (value : α) (entries : List (String × α)) :
    ((insert name value entries).map fun entry => size entry.2).sum + ((get? name entries).map size).getD 0 =
      (entries.map fun entry => size entry.2).sum + size value := by
  induction entries with
  | nil => simp [insert, get?]
  | cons entry rest ih =>
      obtain ⟨key, old⟩ := entry
      by_cases hkey : key = name
      · simp only [insert, get?, if_pos hkey, List.map_cons, List.sum_cons, Option.map_some, Option.getD_some]
        omega
      · simp only [insert, get?, if_neg hkey, List.map_cons, List.sum_cons]
        omega

/-- An erasure takes the old value away from a sum. -/
theorem sum_erase {α : Type} (size : α → Nat) (name : String) (entries : List (String × α)) :
    ((erase name entries).map fun entry => size entry.2).sum + ((get? name entries).map size).getD 0 =
      (entries.map fun entry => size entry.2).sum := by
  induction entries with
  | nil => rfl
  | cons entry rest ih =>
      obtain ⟨key, old⟩ := entry
      by_cases hkey : key = name
      · simp only [erase, get?, if_pos hkey, List.map_cons, List.sum_cons, Option.map_some, Option.getD_some]
        omega
      · simp only [erase, get?, if_neg hkey, List.map_cons, List.sum_cons]
        omega

end Entries

namespace Database

variable {database : Database} {name : String} {fields : Fields} {activity : Activity}

/-- The number of documents in the collections of a database. -/
def stored (database : Database) : Nat := (database.collections.map fun entry => entry.2.size).sum

/-- The collection that is put under a name takes the place of the one held there. -/
theorem stored_put (database : Database) (name : String) (collection : Collection) :
    (database.put name collection).stored + (database.held name).size = database.stored + collection.size := by
  have hsum := Entries.sum_insert Collection.size name collection database.collections
  have hheld : ((Entries.get? name database.collections).map Collection.size).getD 0 =
      (database.held name).size := by
    unfold held collection?
    cases Entries.get? name database.collections <;> rfl
  rw [hheld] at hsum
  exact hsum

theorem stored_create (database : Database) (name : String) :
    (database.create name).stored = database.stored := by
  have hput := database.stored_put name (database.held name)
  rw [put_held] at hput
  omega

theorem stored_remove_le (database : Database) (name : String) :
    (database.remove name).stored ≤ database.stored :=
  Nat.le.intro (Entries.sum_erase Collection.size name database.collections)

theorem stored_insertOne_of_error {error : StoreError}
    (h : (database.insertOne name fields activity).result = .error error) :
    (database.insertOne name fields activity).database.stored = database.stored := by
  rw [database_insertOne_of_error h, stored_create]

theorem stored_insertOne_of_ok {id : ObjectId}
    (h : (database.insertOne name fields activity).result = .ok id) :
    (database.insertOne name fields activity).database.stored = database.stored + 1 := by
  rcases database.insertOne_cases name fields activity with ⟨error, herror, -⟩ | ⟨id, -, -, hadded⟩
  · rw [h] at herror
    exact nomatch herror
  · have hput := database.stored_put name ((database.held name).add (.withId id fields))
    have hsize : ((database.held name).add (.withId id fields)).size = (database.held name).size + 1 :=
      Array.size_push _
    rw [hadded]
    omega

/-- A series adds as many documents as it returns identifiers. -/
theorem stored_insertEach (documents : List Fields) (database : Database) (activity : Activity) :
    (database.insertEach name documents activity).database.stored =
      database.stored + (database.insertEach name documents activity).ids.length := by
  induction documents generalizing database activity with
  | nil => rfl
  | cons fields rest ih =>
      cases hresult : (database.insertOne name fields activity).result with
      | error error =>
          rw [insertEach_cons_of_error hresult]
          rfl
      | ok id =>
          rw [insertEach_cons_of_ok hresult]
          simp only [ih, stored_insertOne_of_ok hresult, List.length_cons]
          omega

/-- A batch adds as many documents as its loop inserts. -/
theorem stored_insertMany (database : Database) (name : String) (documents : List Fields)
    (activity : Activity) : (database.insertMany name documents activity).database.stored =
      database.stored + ((database.held name).insertAll activity.supply documents).inserted.length := by
  obtain ⟨hids, -⟩ := insertAfter_insertEach name documents database activity 0 []
  rw [insertMany_database, stored_create, stored_insertEach, Collection.insertAll, hids, List.append_nil,
    List.length_reverse]

theorem stored_replaceOne (h : database.Sound) (name : String) (id : ObjectId) (fields : Fields) :
    (database.replaceOne name id fields).2.stored = database.stored := by
  rcases h.replaceOne_cases name id fields with
    ⟨-, hsame⟩ | ⟨-, -, replaced, hput, -, before, old, rest, hheld, -, hreplaced⟩
  · rw [hsame]
  · have hsize : replaced.size = (database.held name).size := by
      unfold Collection.size
      rw [← Array.length_toList, ← Array.length_toList, hheld, hreplaced]
      simp
    have hstored := database.stored_put name replaced
    rw [hput]
    omega

/-! ## Counts -/

/-- An insertion counts what it adds, and its error if it is about an identifier that is taken. -/
theorem counters_insertOne (database : Database) (name : String) (fields : Fields) (activity : Activity) :
    (database.insertOne name fields activity).activity.counters =
      activity.counters.countCall
        ((database.insertOne name fields activity).database.stored - database.stored)
        (failure? (database.insertOne name fields activity).result) := by
  rcases hinsertion : (database.held name).insert activity.supply fields with ⟨result, collection, supply⟩
  have hresult := (insertOne_of_insert hinsertion).1
  cases result with
  | ok id =>
      rw [stored_insertOne_of_ok hresult, hresult, Nat.add_sub_cancel_left]
      unfold insertOne
      simp only [fst_takeOut, hinsertion]
      rfl
  | error refusal =>
      rw [stored_insertOne_of_error hresult, hresult, Nat.sub_self]
      unfold insertOne
      simp only [fst_takeOut, hinsertion]
      cases refusal <;> rfl

/-- A batch counts what it adds, and its error if it is about an identifier that is taken. -/
theorem counters_insertMany (database : Database) (name : String) (documents : List Fields)
    (activity : Activity) :
    (database.insertMany name documents activity).activity.counters =
      activity.counters.countCall
        ((database.insertMany name documents activity).database.stored - database.stored)
        (failure? (database.insertMany name documents activity).result) := by
  rw [stored_insertMany, Nat.add_sub_cancel_left, result_insertMany]
  unfold insertMany
  simp only [fst_takeOut]
  rcases ((database.held name).insertAll activity.supply documents).refusal with
    _ | ⟨position, cause | id⟩ <;> rfl

/-- No identifier is taken by a replacement. -/
theorem not_isDuplicate_of_replaceOne {id : ObjectId} {error : StoreError}
    (h : (database.replaceOne name id fields).1 = .error error) : error.isDuplicate = false := by
  unfold replaceOne at h
  split at h
  · obtain rfl := Except.error.inj h
    rfl
  split at h
  · obtain rfl := Except.error.inj h
    rfl
  split at h <;> exact nomatch h

end Database

/-- **What a call counts:** the documents that it adds, and its error if it is about an identifier that is
taken. -/
theorem counters_call {database : Database} (h : database.Sound) (call : Call) :
    (call.activityAfter database).counters =
      call.activity.counters.countCall ((call.perform database).stored - database.stored)
        (call.error? database) := by
  obtain ⟨name, operation, activity⟩ := call
  cases operation with
  | create =>
      show activity.counters =
        activity.counters.countCall ((database.create name).stored - database.stored) none
      rw [Database.stored_create, Nat.sub_self]
      rfl
  | remove =>
      show activity.counters =
        activity.counters.countCall ((database.remove name).stored - database.stored) none
      rw [Nat.sub_eq_zero_of_le (database.stored_remove_le name)]
      rfl
  | insertOne fields => exact database.counters_insertOne name fields activity
  | insertMany documents => exact database.counters_insertMany name documents activity
  | replaceOne id fields =>
      show activity.counters = activity.counters.countCall
        ((database.replaceOne name id fields).2.stored - database.stored)
        (failure? (database.replaceOne name id fields).1)
      rw [Database.stored_replaceOne h, Nat.sub_self]
      cases hresult : (database.replaceOne name id fields).1 with
      | ok found => rfl
      | error error => simp [Counters.countCall, failure?, Database.not_isDuplicate_of_replaceOne hresult]

end Docstore

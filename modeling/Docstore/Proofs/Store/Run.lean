import Docstore.Proofs.Store.Batch

/-!
# `Docstore.Proofs.Store.Run` — what holds after any sequence of calls

A `Call` is an operation on one collection, and `Database.run` performs calls one after another, whether they
succeed or fail. Beside the database a reader of the calls and their results can keep a list of what each
collection should hold: `Database.listing` does so, and starts anew where a collection is removed. The main
statement is that after any calls on an empty database the scan of every collection is that list, that its
identifiers are distinct and stand in front of the fields, and that looking up an identifier finds the record
of the scan.

Nothing is assumed about the identifiers that are generated: each call has a supply of its own, and a
generated identifier that is taken is refused like any other.

## Contents
- **Calls.** `Operation`, `Call`, `Call.perform`, `Call.list`, `run`, `listing`.
- **Steps.** `Sound.perform` and `Sound.scan_perform`: a call keeps a database sound, and changes the scan as
  it changes the list.
- **Runs.** `sound_run` and `scan_run` by induction on the calls; `run_invariant` is the main statement.
-/

namespace Docstore

/-! ## Calls -/

/-- What can be done with a collection. -/
inductive Operation where
  | create
  | remove
  | insertOne (fields : Fields)
  | insertMany (documents : List Fields)
  | replaceOne (id : ObjectId) (fields : Fields)

/-- An operation on a collection, and the activity of the process by then, which supplies the identifiers
of documents that come without one. -/
structure Call where
  collection : String
  operation : Operation
  activity : Activity

namespace Call

/-- The database after a call. -/
def perform (call : Call) (database : Database) : Database :=
  match call.operation with
  | .create => database.create call.collection
  | .remove => database.remove call.collection
  | .insertOne fields => (database.insertOne call.collection fields call.activity).database
  | .insertMany documents => (database.insertMany call.collection documents call.activity).database
  | .replaceOne id fields => (database.replaceOne call.collection id fields).2

/-- What is listed for the collection of a call after it, if `listed` was listed before. What is inserted
comes last, and what is replaced keeps its place. -/
def list (call : Call) (database : Database) (listed : List Record) : List Record :=
  match call.operation with
  | .create => listed
  | .remove => []
  | .insertOne fields =>
    match (database.insertOne call.collection fields call.activity).result with
    | .ok id => listed ++ [.withId id fields]
    | .error _ => listed
  | .insertMany documents =>
    let series := database.insertEach call.collection documents call.activity
    listed ++ List.zipWith .withId series.ids documents
  | .replaceOne id fields =>
    match (database.replaceOne call.collection id fields).1 with
    | .ok true => listed.map fun record => if record.id = id then .withId id fields else record
    | _ => listed

end Call

namespace Database

variable {database : Database} {name : String}

/-- The database after calls, performed one after another. -/
def run (database : Database) : List Call → Database
  | [] => database
  | call :: rest => (call.perform database).run rest

/-- What is listed for a collection after calls, if `listed` was listed before. -/
def listing (name : String) (database : Database) (listed : List Record) : List Call → List Record
  | [] => listed
  | call :: rest =>
    listing name (call.perform database)
      (if name = call.collection then call.list database listed else listed) rest

/-! ## Steps -/

/-- A series adds the documents that it inserts, under their identifiers. -/
theorem scan_insertEach (name other : String) (documents : List Fields) (database : Database)
    (activity : Activity) :
    (database.insertEach name documents activity).database.scan other =
      if other = name then
        database.scan name ++
          List.zipWith .withId (database.insertEach name documents activity).ids documents
      else database.scan other := by
  induction documents generalizing database activity with
  | nil =>
      split
      · next h => simp [insertEach, h]
      · rfl
  | cons fields rest ih =>
      cases hresult : (database.insertOne name fields activity).result with
      | error error =>
          -- nothing is inserted from here on
          rw [insertEach_cons_of_error hresult]
          split
          · next h => simp [h]
          · rfl
      | ok id =>
          rw [insertEach_cons_of_ok hresult]
          -- the first document comes last in the listing, then the rest behind it
          simp only [ih, scan_insertOne_of_ok hresult, List.zipWith_cons_cons, if_true]
          split
          · rw [List.append_assoc, List.singleton_append]
          · rfl

/-- Nothing is replaced where nothing has the identifier. -/
theorem map_replace_of_notMem {records : List Record} {record : Record} {id : ObjectId}
    (h : id ∉ records.map (·.id)) :
    (records.map fun found => if found.id = id then record else found) = records := by
  rw [List.map_congr_left (g := fun found => found), List.map_id']
  intro found hm
  rw [if_neg]
  intro hid
  exact h (hid ▸ List.mem_map_of_mem hm)

/-- Where identifiers are distinct, replacing what has an identifier replaces one record in its place. -/
theorem map_replace {before rest : List Record} {old record : Record}
    (hnodup : ((before ++ old :: rest).map (·.id)).Nodup) :
    ((before ++ old :: rest).map fun found => if found.id = old.id then record else found) =
      before ++ record :: rest := by
  rw [List.map_append, List.map_cons, List.nodup_middle, List.nodup_cons, List.mem_append, not_or] at hnodup
  obtain ⟨⟨hbefore, hrest⟩, -⟩ := hnodup
  rw [List.map_append, List.map_cons, if_pos rfl, map_replace_of_notMem hbefore, map_replace_of_notMem hrest]

namespace Sound

theorem insertEach (h : database.Sound) (name : String) (documents : List Fields) (activity : Activity) :
    (database.insertEach name documents activity).database.Sound := by
  induction documents generalizing database activity with
  | nil => exact h
  | cons fields rest ih =>
      cases hresult : (database.insertOne name fields activity).result with
      | error error =>
          rw [insertEach_cons_of_error hresult]
          exact h
      | ok id =>
          rw [insertEach_cons_of_ok hresult]
          exact ih (h.insertOne name fields activity) _

/-- **A call keeps a database sound,** whether it succeeds or fails. -/
theorem perform (h : database.Sound) (call : Call) : (call.perform database).Sound := by
  obtain ⟨name, operation, activity⟩ := call
  cases operation with
  | create => exact h.create name
  | remove => exact h.remove name
  | insertOne fields => exact h.insertOne name fields activity
  | insertMany documents =>
      show (database.insertMany name documents activity).database.Sound
      rw [insertMany_database]
      exact (h.insertEach name documents activity).create name
  | replaceOne id fields => exact h.replaceOne name id fields

/-- In the scan, a replacement that succeeds replaces what has the identifier. -/
theorem scan_replaceOne_of_ok (h : database.Sound) {id : ObjectId} {fields : Fields}
    (hok : (database.replaceOne name id fields).1 = .ok true) (other : String) :
    (database.replaceOne name id fields).2.scan other =
      if other = name then
        (database.scan name).map fun record => if record.id = id then .withId id fields else record
      else database.scan other := by
  obtain ⟨⟨before, old, rest, hbefore, rfl, hafter⟩, hothers, -⟩ := h.replaceOne_in_place hok
  split
  · next hother =>
      have hnodup := (h.held name).nodup_ids
      rw [← scan_eq, hbefore] at hnodup
      rw [hother, hafter, hbefore, map_replace hnodup]
  · next hother =>
      unfold scan
      rw [hothers other hother]

/-- **A call changes the scan as it changes the list,** and no scan but that of its collection. -/
theorem scan_perform (h : database.Sound) (call : Call) (name : String) :
    (call.perform database).scan name =
      if name = call.collection then call.list database (database.scan name) else database.scan name := by
  obtain ⟨collection, operation, activity⟩ := call
  cases operation with
  | create =>
      show (database.create collection).scan name = _
      rw [scan_create]
      exact (ite_self _).symm
  | remove =>
      show (database.remove collection).scan name = if name = collection then [] else database.scan name
      rw [scan_eq, h.held_remove]
      split
      · rfl
      · rw [scan_eq]
  | insertOne fields =>
      show (database.insertOne collection fields activity).database.scan name = _
      cases hresult : (database.insertOne collection fields activity).result with
      | error error =>
          rw [scan_insertOne_of_error hresult]
          simp [Call.list, hresult]
      | ok id =>
          rw [scan_insertOne_of_ok hresult]
          split
          · next hname => simp [Call.list, hresult, hname]
          · rfl
  | insertMany documents =>
      show (database.insertMany collection documents activity).database.scan name = _
      rw [insertMany_database, scan_create, scan_insertEach]
      split
      · next hname => simp [Call.list, hname]
      · rfl
  | replaceOne id fields =>
      show (database.replaceOne collection id fields).2.scan name = _
      by_cases hok : (database.replaceOne collection id fields).1 = .ok true
      · rw [h.scan_replaceOne_of_ok hok]
        split
        · next hname => simp [Call.list, hok, hname]
        · rfl
      · rw [h.replaceOne_of_not_ok hok]
        -- `hok` is the condition of the equation for this case
        simp [Call.list]

end Sound

/-! ## Runs -/

theorem sound_run {calls : List Call} (h : database.Sound) : (database.run calls).Sound := by
  induction calls generalizing database with
  | nil => exact h
  | cons call rest ih => exact ih (h.perform call)

/-- **Every run** lists what its calls make of the listing before it. -/
theorem scan_run {calls : List Call} (h : database.Sound) (name : String) :
    (database.run calls).scan name = listing name database (database.scan name) calls := by
  induction calls generalizing database with
  | nil => rfl
  | cons call rest ih =>
      show ((call.perform database).run rest).scan name = listing name (call.perform database) _ rest
      rw [ih (h.perform call), h.scan_perform]

/-- **What holds after any calls.** Let a database come from an empty one by calls that succeed or fail, with
whatever identifiers are supplied to them. In every collection the identifiers are distinct; the fields of
each record begin with its identifier under `_id`, which they name nowhere else; looking up an identifier
finds the record of the scan that has it, if there is one; and the scan lists what was inserted since the
collection was last removed, in the order of insertion and with what has been replaced in its place. A
replacement that succeeds puts the new fields under the same identifier in the place of the old record, and
changes no other record and no other collection. -/
theorem run_invariant (options : DatabaseOptions) (calls : List Call) (name : String) :
    let database := (empty options).run calls
    ((database.scan name).map (·.id)).Nodup ∧
    (∀ record ∈ database.scan name, record.Headed) ∧
    (∀ id record, database.findById name id = some record ↔
      record ∈ database.scan name ∧ record.id = id) ∧
    database.scan name = listing name (empty options) [] calls ∧
    ∀ id fields, (database.replaceOne name id fields).1 = .ok true →
      let replaced := (database.replaceOne name id fields).2
      (∃ before old rest, database.scan name = before ++ old :: rest ∧ old.id = id ∧
        replaced.scan name = before ++ .withId id fields :: rest) ∧
      (∀ other, other ≠ name → replaced.collection? other = database.collection? other) ∧
      replaced.names = database.names := by
  intro database
  -- soundness is all that the first three parts need of the run
  have hsound : database.Sound := sound_run (sound_empty options)
  have hheld := hsound.held name
  refine ⟨?_, ?_, ?_, scan_run (sound_empty options) name, ?_⟩
  · rw [scan_eq]
    exact hheld.nodup_ids
  · rw [scan_eq]
    exact hheld.headed
  · intro id record
    rw [scan_eq, findById_eq]
    exact hheld.find?_eq_some_iff
  · intro id fields hok
    exact hsound.replaceOne_in_place hok

end Database
end Docstore

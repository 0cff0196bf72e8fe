import Docstore.Proofs.Entries
import Docstore.Proofs.Store.Collection
import Docstore.Store.Database

/-!
# `Docstore.Proofs.Store.Database` — what operations do to collections

Every insertion takes a collection out of the database, changes it, and puts it back; so it is described by
what it does to `held`, the collection of a name, which is empty if there is none. `Database.Sound` says that
no two collections share a name and that every collection is sound; each operation keeps it.

## Contents
- **Collections by name.** `held`, `held_put`, `put_put`, `put_held`.
- **Operations.** `insertOne_of_insert` and `result_insertMany` describe insertions by those into the
  collection; `insertOne_cases` says all that an insertion can do.
- **Sound databases.** `Sound` and one lemma for each operation; `Sound.replaceOne_cases` says all that a
  replacement can do, `Sound.replaceOne_in_place` what one that succeeds does.
-/

namespace Docstore.Database

variable {database : Database} {name other : String}

/-! ## Collections by name -/

/-- The collection of a name; one that is not there is empty. -/
def held (database : Database) (name : String) : Collection :=
  (database.collection? name).getD .empty

theorem scan_eq (database : Database) (name : String) :
    database.scan name = (database.held name).records.toList := by
  unfold scan held
  cases database.collection? name <;> rfl

theorem findById_eq (database : Database) (name : String) (id : ObjectId) :
    database.findById name id = (database.held name).find? id := by
  unfold findById held
  cases database.collection? name with
  | none => simp [Collection.find?, Collection.empty]
  | some collection => rfl

theorem collection?_put (database : Database) (name : String) (collection : Collection) :
    (database.put name collection).collection? other =
      if other = name then some collection else database.collection? other :=
  Entries.get?_insert collection

theorem held_put (database : Database) (name : String) (collection : Collection) :
    (database.put name collection).held other =
      if other = name then collection else database.held other := by
  unfold held
  rw [collection?_put]
  split <;> rfl

/-- Of two puts under one name the second remains. -/
theorem put_put (database : Database) (name : String) (first second : Collection) :
    (database.put name first).put name second = database.put name second :=
  congrArg (Database.mk database.options) (Entries.insert_insert second first database.collections)

/-- A name that is there already is not entered again. -/
theorem names_put {collection : Collection} (h : name ∈ Entries.names database.collections) :
    (database.put name collection).names = database.names := by
  unfold names put
  rw [Entries.names_insert, if_pos h]

/-- Putting back what is there only makes sure that the collection is there. -/
theorem put_held (database : Database) (name : String) :
    database.put name (database.held name) = database.create name := by
  unfold put create
  split
  · next hthere =>
      obtain ⟨collection, hcollection⟩ := Option.isSome_iff_exists.mp hthere
      rw [held, collection?, hcollection, Option.getD_some, Entries.insert_of_get? hcollection]
  · next hmissing =>
      rw [Entries.has_iff] at hmissing
      rw [held, collection?, Entries.get?_eq_none_iff.mpr hmissing, Option.getD_none,
        Entries.insert_of_notMem _ hmissing]

/-- Making sure that a collection is there changes nothing that is held. -/
theorem held_create (database : Database) (name : String) :
    (database.create name).held other = database.held other := by
  rw [← put_held, held_put]
  split
  · next h => rw [h]
  · rfl

theorem scan_put (database : Database) (name : String) (collection : Collection) :
    (database.put name collection).scan other =
      if other = name then collection.records.toList else database.scan other := by
  rw [scan_eq, held_put]
  split
  · rfl
  · rw [scan_eq]

theorem scan_create (database : Database) (name : String) :
    (database.create name).scan other = database.scan other := by
  rw [scan_eq, scan_eq, held_create]

theorem findById_create (database : Database) (name : String) (id : ObjectId) :
    (database.create name).findById other id = database.findById other id := by
  rw [findById_eq, findById_eq, held_create]

/-! ## Operations -/

/-- What is taken out is the collection that is held. -/
theorem fst_takeOut (database : Database) (name : String) : (database.takeOut name).1 = database.held name := rfl

/-- Taking a collection out leaves an empty one, which is overwritten when it is put back. -/
theorem put_takeOut (database : Database) (name : String) (collection : Collection) :
    (database.takeOut name).2.put name collection = database.put name collection :=
  put_put database name .empty collection

/-- The error of a single document that is refused. -/
def refused (name : String) : Collection.Refusal → StoreError
  | .invalid cause => .invalidId cause
  | .duplicate id => .duplicateId name id 0 0

/-- The error of a batch in which the document at `position` is refused after `count` were inserted. -/
def refusedInBatch (name : String) (position count : Nat) : Collection.Refusal → StoreError
  | .invalid cause => .invalidInBatch name position count cause
  | .duplicate id => .duplicateId name id position count

/-- The insertion of a document is that into its collection. -/
theorem insertOne_of_insert {fields : Fields} {activity : Activity}
    {result : Except Collection.Refusal ObjectId} {collection : Collection} {supply : IdSupply}
    (h : (database.held name).insert activity.supply fields = ⟨result, collection, supply⟩) :
    (database.insertOne name fields activity).result = result.mapError (refused name) ∧
    (database.insertOne name fields activity).database = database.put name collection ∧
    (database.insertOne name fields activity).activity.supply = supply := by
  unfold insertOne
  simp only [fst_takeOut, h, put_takeOut]
  cases result with
  | ok id => exact ⟨rfl, rfl, rfl⟩
  | error refusal => cases refusal <;> exact ⟨rfl, rfl, rfl⟩

/-- The result of a batch is that of the loop over its collection: the identifiers in order, or the error of
the document that is refused. -/
theorem result_insertMany (database : Database) (name : String) (documents : List Fields)
    (activity : Activity) :
    let batch := (database.held name).insertAll activity.supply documents
    (database.insertMany name documents activity).result =
      batch.refusal.elim (.ok batch.inserted.reverse) fun (position, refusal) =>
        .error (refusedInBatch name position batch.inserted.length refusal) := by
  unfold insertMany
  simp only [fst_takeOut]
  rcases ((database.held name).insertAll activity.supply documents).refusal with
    _ | ⟨position, cause | id⟩ <;> rfl

/-- **What the insertion of a document can do.** It fails and only makes sure that the collection is there,
or it adds the document at the end of the collection, under an identifier that was not taken. -/
theorem insertOne_cases (database : Database) (name : String) (fields : Fields) (activity : Activity) :
    (∃ error, (database.insertOne name fields activity).result = .error error ∧
      (database.insertOne name fields activity).database = database.create name) ∨
    (∃ id, (database.insertOne name fields activity).result = .ok id ∧
      (database.held name).holds id = false ∧
      (database.insertOne name fields activity).database =
        database.put name ((database.held name).add (.withId id fields))) := by
  have hcases := (database.held name).insert_cases activity.supply fields
  rcases hinsertion : (database.held name).insert activity.supply fields with ⟨result, collection, supply⟩
  rw [hinsertion] at hcases
  obtain ⟨hresult, hdatabase, -⟩ := insertOne_of_insert hinsertion
  rw [hresult, hdatabase]
  rcases hcases with ⟨refusal, hrefusal, hsame⟩ | ⟨id, hid, hfree, hadded⟩
  · left
    have hrefused : result = .error refusal := hrefusal
    have hcollection : collection = database.held name := hsame
    rw [hrefused, hcollection, put_held]
    exact ⟨refused name refusal, rfl, rfl⟩
  · right
    have hinserted : result = .ok id := hid
    have hcollection : collection = (database.held name).add (.withId id fields) := hadded
    rw [hinserted, hcollection]
    exact ⟨id, rfl, hfree, rfl⟩

/-- An insertion that fails only makes sure that the collection is there. -/
theorem database_insertOne_of_error {fields : Fields} {activity : Activity} {error : StoreError}
    (h : (database.insertOne name fields activity).result = .error error) :
    (database.insertOne name fields activity).database = database.create name := by
  rcases database.insertOne_cases name fields activity with ⟨_, -, hcreated⟩ | ⟨id, hok, -⟩
  · exact hcreated
  · rw [h] at hok
    exact nomatch hok

/-- An insertion that fails changes no listing. -/
theorem scan_insertOne_of_error {fields : Fields} {activity : Activity} {error : StoreError}
    (h : (database.insertOne name fields activity).result = .error error) :
    (database.insertOne name fields activity).database.scan other = database.scan other := by
  rw [database_insertOne_of_error h, scan_create]

/-- An insertion that succeeds adds the document at the end of the listing of its collection. -/
theorem scan_insertOne_of_ok {fields : Fields} {activity : Activity} {id : ObjectId}
    (h : (database.insertOne name fields activity).result = .ok id) :
    (database.insertOne name fields activity).database.scan other =
      if other = name then database.scan name ++ [.withId id fields] else database.scan other := by
  rcases database.insertOne_cases name fields activity with ⟨_, herror, -⟩ | ⟨_, hok, -, hadded⟩
  · rw [h] at herror
    exact nomatch herror
  · rw [h] at hok
    obtain rfl := Except.ok.inj hok
    rw [hadded, scan_put, Collection.records_add, scan_eq database name]

/-! ## Sound databases -/

/-- **What every run keeps.** No two collections share a name, and every collection is sound. -/
structure Sound (database : Database) : Prop where
  nodup : (Entries.names database.collections).Nodup
  held : ∀ name, (database.held name).Sound

theorem sound_empty (options : DatabaseOptions) : (empty options).Sound where
  nodup := List.nodup_nil
  held _ := Collection.sound_empty

namespace Sound

variable {collection : Collection} {id : ObjectId} {fields : Fields} {activity : Activity}

theorem put (h : database.Sound) (hcollection : collection.Sound) : (database.put name collection).Sound where
  nodup := Entries.nodup_names_insert collection h.nodup
  held other := by
    rw [held_put]
    split
    · exact hcollection
    · exact h.held other

theorem create (h : database.Sound) (name : String) : (database.create name).Sound := by
  rw [← put_held]
  exact h.put (h.held name)

/-- A collection that is removed holds nothing; since no other has its name, none comes to light. -/
theorem held_remove (h : database.Sound) :
    (database.remove name).held other = if other = name then .empty else database.held other := by
  unfold Database.held collection? Database.remove
  split
  · next hother =>
      rw [hother, Entries.get?_erase_self h.nodup]
      rfl
  · next hother => rw [Entries.get?_erase_of_ne hother]

/-- A removal keeps a database sound. -/
theorem remove (h : database.Sound) (name : String) : (database.remove name).Sound where
  nodup := by
    show (Entries.names (Entries.erase name database.collections)).Nodup
    rw [Entries.names_erase]
    exact h.nodup.erase name
  held other := by
    rw [h.held_remove]
    split
    · exact Collection.sound_empty
    · exact h.held other

/-- An insertion keeps a database sound, whether it succeeds or fails. -/
theorem insertOne (h : database.Sound) (name : String) (fields : Fields) (activity : Activity) :
    (database.insertOne name fields activity).database.Sound := by
  rcases database.insertOne_cases name fields activity with ⟨error, -, hcreated⟩ | ⟨id, -, hfree, hadded⟩
  · rw [hcreated]
    exact h.create name
  · rw [hadded]
    exact h.put ((h.held name).add hfree (Record.headed_withId id fields))

/-- **What a replacement can do.** It changes nothing, or the record of the identifier gives way to the new
one in its place, in a collection that was there. -/
theorem replaceOne_cases (h : database.Sound) (name : String) (id : ObjectId) (fields : Fields) :
    ((database.replaceOne name id fields).1 ≠ .ok true ∧
      (database.replaceOne name id fields).2 = database) ∨
    ((database.replaceOne name id fields).1 = .ok true ∧ name ∈ Entries.names database.collections ∧
      ∃ replaced : Collection, (database.replaceOne name id fields).2 = database.put name replaced ∧
        replaced.Sound ∧ ∃ before old rest, (database.held name).records.toList = before ++ old :: rest ∧
          old.id = id ∧ replaced.records.toList = before ++ .withId id fields :: rest) := by
  unfold Database.replaceOne
  split
  · exact .inl ⟨nofun, rfl⟩
  next collection hthere =>
  have hheld : database.held name = collection := by
    rw [Database.held, hthere, Option.getD_some]
  split
  · exact .inl ⟨nofun, rfl⟩
  next record hrecord =>
  obtain rfl := Record.eq_withId_of_replacing hrecord
  split
  · exact .inl ⟨nofun, rfl⟩
  next replaced hreplaced =>
  have hmem : name ∈ Entries.names database.collections :=
    Entries.has_iff.mp (Option.isSome_iff_exists.mpr ⟨collection, hthere⟩)
  have hsound := h.held name
  rw [hheld] at hsound ⊢
  exact .inr ⟨rfl, hmem, replaced, rfl, hsound.replace? (Record.headed_withId id fields) hreplaced⟩

theorem replaceOne_of_not_ok (h : database.Sound)
    (hfailed : (database.replaceOne name id fields).1 ≠ .ok true) :
    (database.replaceOne name id fields).2 = database := by
  rcases h.replaceOne_cases name id fields with ⟨-, hsame⟩ | ⟨hok, -⟩
  · exact hsame
  · exact absurd hok hfailed

/-- **A replacement that succeeds** puts one record in the place of another with its identifier, and changes
no other collection. -/
theorem replaceOne_in_place (h : database.Sound) (hok : (database.replaceOne name id fields).1 = .ok true) :
    (∃ before old rest, database.scan name = before ++ old :: rest ∧ old.id = id ∧
      (database.replaceOne name id fields).2.scan name = before ++ .withId id fields :: rest) ∧
    (∀ other, other ≠ name →
      (database.replaceOne name id fields).2.collection? other = database.collection? other) ∧
    (database.replaceOne name id fields).2.names = database.names := by
  rcases h.replaceOne_cases name id fields with
    ⟨hfailed, -⟩ | ⟨-, hmem, replaced, hput, -, before, old, rest, hsplit, hid, hreplaced⟩
  · exact absurd hok hfailed
  rw [hput]
  refine ⟨⟨before, old, rest, ?_, hid, ?_⟩, ?_, names_put hmem⟩
  · rw [scan_eq, hsplit]
  · rw [scan_put, if_pos rfl, hreplaced]
  · intro other hother
    rw [collection?_put, if_neg hother]

/-- A replacement keeps a database sound, whether it succeeds or fails. -/
theorem replaceOne (h : database.Sound) (name : String) (id : ObjectId) (fields : Fields) :
    (database.replaceOne name id fields).2.Sound := by
  rcases h.replaceOne_cases name id fields with ⟨-, hsame⟩ | ⟨-, -, replaced, hput, hsound, -⟩
  · rw [hsame]
    exact h
  · rw [hput]
    exact h.put hsound

end Sound
end Docstore.Database

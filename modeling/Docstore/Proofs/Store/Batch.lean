import Docstore.Proofs.Store.Database

/-!
# `Docstore.Proofs.Store.Batch` — a batch is one insertion after another

Inserting a batch is a loop of its own over the collection, with its own check of every document, its own
look at the identifiers that are taken, and a position that it counts beside the identifiers it collects.
`Database.insertEach` inserts the same documents one by one and stops at the first error; the main statement
is that both come to the same. Only where not a single document is inserted do they differ, and in one thing:
the batch still makes sure that the collection is there.

A pass of the loop does to the collection what one insertion does (`Collection.insertAfter_cons`), and takes
the position and the number of identifiers on by one. So the position of the document that fails is the number
of documents inserted before it.

## Contents
- **One by one.** `Series`, `insertEach`; `insertEach_of_failure`: the document that fails.
- **Batches.** `insertAfter_insertEach` relates the loop to the series, by induction on the documents, for
  every state in which the loop may be; `insertMany_eq_insertEach` is the main statement.
-/

namespace Docstore.Database

variable {database : Database} {name : String} {fields : Fields} {rest : List Fields} {activity : Activity}

/-! ## One by one -/

/-- What inserting documents one by one comes to. -/
structure Series where
  /-- The identifiers of the inserted documents, in order. -/
  ids : List ObjectId
  /-- The error of the first document that is not inserted. -/
  failure : Option StoreError
  /-- The database after the inserted documents. -/
  database : Database
  /-- The activity after the inserted documents. -/
  activity : Activity

/-- Inserts documents one by one, up to the first that fails. -/
def insertEach (database : Database) (name : String) : List Fields → Activity → Series
  | [], activity => ⟨[], none, database, activity⟩
  | fields :: rest, activity =>
    let outcome := database.insertOne name fields activity
    match outcome.result with
    | .error error => ⟨[], some error, database, activity⟩
    | .ok id =>
      let series := outcome.database.insertEach name rest outcome.activity
      { series with ids := id :: series.ids }

theorem insertEach_cons_of_error {error : StoreError}
    (h : (database.insertOne name fields activity).result = .error error) :
    database.insertEach name (fields :: rest) activity = ⟨[], some error, database, activity⟩ := by
  rw [insertEach]
  simp only [h]

theorem insertEach_cons_of_ok {id : ObjectId}
    (h : (database.insertOne name fields activity).result = .ok id) :
    database.insertEach name (fields :: rest) activity =
      { (database.insertOne name fields activity).database.insertEach name rest
          (database.insertOne name fields activity).activity with
        ids := id :: ((database.insertOne name fields activity).database.insertEach name rest
          (database.insertOne name fields activity).activity).ids } := by
  rw [insertEach]
  simp only [h]

/-- A series without an error inserts every document. -/
theorem length_ids_of_no_failure {documents : List Fields}
    (h : (database.insertEach name documents activity).failure = none) :
    (database.insertEach name documents activity).ids.length = documents.length := by
  induction documents generalizing database activity with
  | nil => rfl
  | cons fields rest ih =>
      cases hresult : (database.insertOne name fields activity).result with
      | error error =>
          rw [insertEach_cons_of_error hresult] at h
          exact nomatch h
      | ok id =>
          rw [insertEach_cons_of_ok hresult] at h ⊢
          exact congrArg Nat.succ (ih h)

/-- The document that fails is the one after those that are inserted, and it fails after them. -/
theorem insertEach_of_failure {documents : List Fields} {error : StoreError}
    (h : (database.insertEach name documents activity).failure = some error) :
    let series := database.insertEach name documents activity
    ∃ fields, documents[series.ids.length]? = some fields ∧
      (series.database.insertOne name fields series.activity).result = .error error := by
  induction documents generalizing database activity with
  | nil => exact nomatch h
  | cons fields rest ih =>
      cases hresult : (database.insertOne name fields activity).result with
      | error failure =>
          rw [insertEach_cons_of_error hresult] at h ⊢
          obtain rfl := Option.some.inj h
          exact ⟨fields, rfl, hresult⟩
      | ok id =>
          rw [insertEach_cons_of_ok hresult] at h ⊢
          exact ih h

/-! ## Batches -/

/-- **The loop and the series.** From any collection of a database on, the loop inserts what the series
inserts, is refused what fails, and leaves the collection that the series leaves. The position of a refusal
lies as far behind the one where the loop began as documents were inserted on the way. -/
theorem insertAfter_insertEach (name : String) (documents : List Fields) (database : Database)
    (activity : Activity) (position : Nat) (inserted : List ObjectId) :
    let batch := (database.held name).insertAfter position inserted activity.supply documents
    let series := database.insertEach name documents activity
    batch.inserted = series.ids.reverse ++ inserted ∧
    series.failure = batch.refusal.map (fun refusal => refused name refusal.2) ∧
    (∀ refusal ∈ batch.refusal, refusal.1 = position + series.ids.length) ∧
    database.put name batch.collection = series.database.create name := by
  induction documents generalizing database activity position inserted with
  | nil => exact ⟨rfl, rfl, nofun, put_held database name⟩
  | cons fields rest ih =>
      have hcases := (database.held name).insert_cases activity.supply fields
      rcases hinsertion : (database.held name).insert activity.supply fields with
        ⟨refusal | id, collection, supply⟩
      · -- the loop ends where it is, with the collection that it had
        rw [hinsertion] at hcases
        have hsame : collection = database.held name := by
          rcases hcases with ⟨_, -, hsame⟩ | ⟨_, hok, -⟩
          · exact hsame
          · exact nomatch hok
        have hresult := (insertOne_of_insert hinsertion).1
        rw [insertEach_cons_of_error hresult, Collection.insertAfter_cons, hinsertion, hsame]
        refine ⟨rfl, rfl, ?_, put_held database name⟩
        rintro _ ⟨⟩
        rfl
      · -- the loop goes on, one position further, with the collection that the single insertion leaves
        obtain ⟨hresult, hdatabase, hsupply⟩ := insertOne_of_insert hinsertion
        have hrest := ih (database.insertOne name fields activity).database
          (database.insertOne name fields activity).activity (position + 1) (id :: inserted)
        rw [hsupply, hdatabase, held_put, if_pos rfl] at hrest
        rw [insertEach_cons_of_ok hresult, Collection.insertAfter_cons, hinsertion, hdatabase]
        obtain ⟨hids, hfailure, hposition, hput⟩ := hrest
        refine ⟨?_, hfailure, ?_, ?_⟩
        · rw [hids]
          simp
        · intro refusal hrefusal
          rw [hposition refusal hrefusal, List.length_cons]
          omega
        · rw [← hput, put_put]

/-- A batch leaves what the series leaves, in a collection that is there. -/
theorem insertMany_database (database : Database) (name : String) (documents : List Fields)
    (activity : Activity) : (database.insertMany name documents activity).database =
      (database.insertEach name documents activity).database.create name := by
  obtain ⟨-, -, -, hput⟩ := insertAfter_insertEach name documents database activity 0 []
  rw [← hput]
  exact put_takeOut database name _

/-- **A batch comes to the same as its documents one by one.** Let `i` be the number of documents that are
inserted one by one before the first that fails. The batch leaves what these insertions leave; it returns
their identifiers if none fails, and otherwise the error of the document at `i`, in the wording for batches,
with `i` as the position and as the number of inserted documents. -/
theorem insertMany_eq_insertEach (database : Database) (name : String) (documents : List Fields)
    (activity : Activity) :
    let series := database.insertEach name documents activity
    let outcome := database.insertMany name documents activity
    let i := series.ids.length
    outcome.database = series.database.create name ∧
    (∀ other, outcome.database.scan other = series.database.scan other) ∧
    (∀ other id, outcome.database.findById other id = series.database.findById other id) ∧
    (series.failure = none → i = documents.length ∧ outcome.result = .ok series.ids) ∧
    ∀ error, series.failure = some error →
      (∃ fields, documents[i]? = some fields ∧
        (series.database.insertOne name fields series.activity).result = .error error) ∧
      ((∃ id, error = .duplicateId name id 0 0 ∧ outcome.result = .error (.duplicateId name id i i)) ∨
        ∃ cause, error = .invalidId cause ∧ outcome.result = .error (.invalidInBatch name i i cause) ∧
          (StoreError.invalidInBatch name i i cause).message =
            "invalid document" ++ StoreError.progress name i i ++ ": " ++ error.message) := by
  intro series outcome i
  have hdatabase := insertMany_database database name documents activity
  have hloop := insertAfter_insertEach name documents database activity 0 []
  have hresult := result_insertMany database name documents activity
  rw [Collection.insertAll] at hresult
  generalize (database.held name).insertAfter 0 [] activity.supply documents = batch at hloop hresult
  obtain ⟨hids, hfailure, hposition, -⟩ := hloop
  have hreverse : batch.inserted.reverse = series.ids := by
    rw [hids, List.append_nil, List.reverse_reverse]
  have hcount : batch.inserted.length = i := by
    rw [← List.length_reverse, hreverse]
  simp only [hreverse, hcount] at hresult
  refine ⟨hdatabase, ?_, ?_, ?_, ?_⟩
  · intro other
    rw [hdatabase, scan_create]
  · intro other id
    rw [hdatabase, findById_create]
  · intro hnone
    have hclear := Option.map_eq_none_iff.mp (hfailure.symm.trans hnone)
    rw [hclear] at hresult
    exact ⟨length_ids_of_no_failure hnone, hresult⟩
  · intro error herror
    refine ⟨insertEach_of_failure herror, ?_⟩
    obtain ⟨⟨position, refusal⟩, hrefusal, rfl⟩ := Option.map_eq_some_iff.mp (hfailure.symm.trans herror)
    -- the loop has counted its positions from zero on, one for each identifier
    obtain rfl : position = i := (hposition _ hrefusal).trans (Nat.zero_add _)
    rw [hrefusal] at hresult
    cases refusal with
    | duplicate id => exact .inl ⟨id, rfl, hresult⟩
    | invalid cause => exact .inr ⟨cause, rfl, hresult, rfl⟩

end Docstore.Database

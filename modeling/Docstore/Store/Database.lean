import Docstore.Pipeline.Execution
import Docstore.Store.Collection
import Docstore.Store.Cursor
import Docstore.Store.Error

/-!
# `Docstore.Store.Database` — named collections

A `Database` holds collections by name. Its operations take the activity of the process along; an
operation that fails returns what it has changed up to then.

## Contents
- **Collections.** `create`, `remove`, `names`, `sizes`.
- **Documents.** `insertOne`, `insertMany`, `replaceOne`, `findById`, `scan`.
- **Aggregations.** `aggregate` runs a pipeline over the documents that are there when it starts.
-/

namespace Docstore

/-- The settings of a database. -/
structure DatabaseOptions where
  /-- The milliseconds from which on an aggregation counts as slow. -/
  slowMillis : Nat
  /-- The most documents that an aggregation returns. -/
  maxResults : Option Nat
deriving DecidableEq, Repr

/-- The settings of a database that is opened without any. -/
def DatabaseOptions.standard : DatabaseOptions := ⟨500, none⟩

/-- Named collections. -/
structure Database where
  options : DatabaseOptions
  collections : List (String × Collection)

namespace Database

/-- A database without collections. -/
def empty (options : DatabaseOptions) : Database := ⟨options, []⟩

/-! ## Collections -/

/-- The collection of a name. -/
def collection? (database : Database) (name : String) : Option Collection :=
  Entries.get? name database.collections

/-- Makes sure that there is a collection of a name. -/
def create (database : Database) (name : String) : Database :=
  if Entries.has name database.collections then database
  else { database with collections := database.collections ++ [(name, .empty)] }

/-- Removes the collection of a name. -/
def remove (database : Database) (name : String) : Database :=
  { database with collections := Entries.erase name database.collections }

/-- The names of the collections, in ascending order. -/
def names (database : Database) : List String :=
  (Entries.names database.collections).mergeSort fun a b => compare a b != .gt

/-- The number of documents in a collection; one that is not there has none. -/
def size (database : Database) (name : String) : Nat :=
  ((database.collection? name).map Collection.size).getD 0

/-- The names of the collections, in ascending order, and the numbers of their documents. -/
def sizes (database : Database) : List (String × Nat) :=
  database.names.map fun name => (name, database.size name)

/-! ## Documents -/

/-- What an operation comes to: its result, the database and the activity after it. -/
structure Outcome (α : Type) where
  result : Except StoreError α
  database : Database
  activity : Activity

/-- Takes the collection of a name out of the database, for it to be put back changed. -/
def takeOut (database : Database) (name : String) : Collection × Database :=
  let ⟨options, collections⟩ := database
  ((Entries.get? name collections).getD .empty, ⟨options, Entries.insert name .empty collections⟩)

/-- Puts a collection under a name. -/
def put (database : Database) (name : String) (collection : Collection) : Database :=
  { database with collections := Entries.insert name collection database.collections }

/-- Counts inserted documents and a refusal. -/
def countInsertion (inserted : Nat) (refusal : Option Collection.Refusal) (counters : Counters) :
    Counters :=
  let counted := counters.countInserts inserted
  match refusal with
  | some (.duplicate _) => counted.countDuplicate
  | _ => counted

/-- Inserts one document into a collection, which is created if it is not there. -/
def insertOne (database : Database) (name : String) (fields : Fields) (activity : Activity) :
    Outcome ObjectId :=
  let (collection, others) := database.takeOut name
  let ⟨result, collection, supply⟩ := collection.insert activity.supply fields
  let database := others.put name collection
  match result with
  | .ok id =>
    ⟨.ok id, database,
      { activity with supply := supply, counters := countInsertion 1 none activity.counters }⟩
  | .error refusal =>
    let error := match refusal with
      | .invalid cause => .invalidId cause
      | .duplicate id => .duplicateId name id 0 0
    ⟨.error error, database,
      { activity with
        supply := supply, counters := countInsertion 0 (some refusal) activity.counters }⟩

/-- Inserts documents into a collection, which is created if it is not there, up to the first that is
refused. -/
def insertMany (database : Database) (name : String) (documents : List Fields)
    (activity : Activity) : Outcome (List ObjectId) :=
  let (collection, others) := database.takeOut name
  let batch := collection.insertAll activity.supply documents
  let count := batch.inserted.length
  let result := match batch.refusal with
    | none => .ok batch.inserted.reverse
    | some (position, .invalid cause) => .error (.invalidInBatch name position count cause)
    | some (position, .duplicate id) => .error (.duplicateId name id position count)
  ⟨result, others.put name batch.collection,
    { activity with
      supply := batch.supply
      counters := countInsertion count (batch.refusal.map Prod.snd) activity.counters }⟩

/-- Replaces the document of an identifier. The result tells whether there is one. -/
def replaceOne (database : Database) (name : String) (id : ObjectId) (fields : Fields) :
    Except StoreError Bool × Database :=
  match database.collection? name with
  | none => (.error (.noSuchCollection name), database)
  | some collection =>
    match Record.replacing id fields with
    | .error cause => (.error (.invalidId cause), database)
    | .ok record =>
      match collection.replace? record with
      | none => (.ok false, database)
      | some replaced => (.ok true, database.put name replaced)

/-- The record of an identifier in a collection. -/
def findById (database : Database) (name : String) (id : ObjectId) : Option Record :=
  (database.collection? name).bind (·.find? id)

/-- The records of a collection, in the order of their insertion. -/
def scan (database : Database) (name : String) : List Record :=
  ((database.collection? name).map (·.records.toList)).getD []

/-! ## Aggregations -/

/-- The documents of a collection; one that is not there has none. -/
def documents (database : Database) (name : String) : List Fields :=
  ((database.collection? name).map (·.documents)).getD []

/-- Starts to run a pipeline over the documents of a collection. -/
def aggregate (database : Database) (name : String) (pipeline : Pipeline) : Cursor :=
  let snapshots := pipeline.sources.map fun source => (source, database.documents source)
  let feed := pipeline.execute snapshots (.ofList (database.documents name))
  .start feed name pipeline.length database.options.maxResults database.options.slowMillis

/-! ## Texts for developers -/

/-- An optional number as it is shown to developers. -/
def optionText : Option Nat → String
  | some n => "Some(" ++ toString n ++ ")"
  | none => "None"

/-- A database as it is shown to developers. -/
def debugText (database : Database) : String :=
  "Database \x7b engine: Engine \x7b options: EngineOptions \x7b slow_pipeline_ms: " ++
    toString database.options.slowMillis ++ ", max_result_docs: " ++
    optionText database.options.maxResults ++ " \x7d, collections: " ++
    toString database.collections.length ++ " \x7d \x7d"

/-- A collection as it is shown to developers. -/
def collectionDebugText (database : Database) (name : String) : Option String :=
  (database.collection? name).map fun collection =>
    "Collection \x7b name: " ++ Text.quoted name ++ ", len: " ++ toString collection.size ++ " \x7d"

end Database
end Docstore

import Docstore.Console.OutputMode
import Docstore.Error
import Docstore.Files.Basic
import Docstore.Json.Printer
import Docstore.Store.Database
import Docstore.Value.Relaxed

/-!
# `Docstore.Console.Command` — commands on a database

A `Command` is carried out on a `Workspace` and comes to the text that it writes, or to an error.

## Contents
- **Texts.** What the commands write, for each output mode.
- **Seed files.** `loadSeed` inserts the documents of a file, collection by collection.
- **Commands.** `Command.run`.
-/

namespace Docstore

/-- A database and the activity of its process. -/
structure Workspace where
  database : Database
  activity : Activity

/-- What is asked of a database. -/
inductive Command where
  /-- Run a pipeline over a collection; `now` is the reference instant. -/
  | aggregate (collection pipeline : String) (now : Option String)
  | insert (collection document : String)
  /-- Insert the documents of a seed file. -/
  | load (path : String)
  | collections
  | info
  | metrics
deriving DecidableEq, Repr

/-! ## Texts -/

namespace OutputMode

/-- The text of a line. -/
def line (text : String) : String := text ++ "\n"

/-- The text of some lines. -/
def lines (texts : List String) : String := String.join (texts.map line)

/-- The documents of an aggregation. -/
def documentsText (mode : OutputMode) (documents : List Fields) : String :=
  let values := documents.map documentToJson
  match mode with
  | json => line (Json.array values).compact
  | plain => lines (values.map Json.compact)
  | human =>
    lines (values.map Json.pretty) ++
      line ("(" ++ toString documents.length ++ " documents)")

/-- An inserted document. -/
def insertedText (mode : OutputMode) (collection : String) (id : ObjectId) : String :=
  match mode with
  | json =>
    line (Json.object [("action", .string "inserted"), ("collection", .string collection),
      ("_id", .string id.hex)]).compact
  | plain => line id.hex
  | human => line ("inserted collection=" ++ collection ++ " _id=" ++ id.hex)

/-- A loaded seed file. -/
def loadedText (mode : OutputMode) (path : String) (count : Nat) : String :=
  match mode with
  | json =>
    line (Json.object [("action", .string "loaded"), ("file", .string path),
      ("documents", .int count)]).compact
  | plain => line (toString count)
  | human => line ("loaded documents=" ++ toString count ++ " file=" ++ path)

/-- The names of collections. -/
def namesText (mode : OutputMode) (names : List String) : String :=
  match mode with
  | json => line (Json.array (names.map .string)).compact
  | plain | human => lines names

/-- The version of this program. -/
def version : String := "0.1.0"

/-- The parts that this program is made of. -/
def features : List String := ["default"]

/-- The version, the parts, and the names and sizes of the collections. -/
def infoText (mode : OutputMode) (sizes : List (String × Nat)) : String :=
  match mode with
  | plain =>
    line ("version=" ++ version ++ " collections=" ++ toString sizes.length ++ " documents=" ++
      toString ((sizes.map (·.2)).foldl (· + ·) 0))
  | json | human =>
    line (Json.object [("version", .string version), ("features", .array (features.map .string)),
      ("collections", .array (sizes.map fun (name, size) =>
        .object [("name", .string name), ("documents", .int size)]))]).pretty

/-- The counters. -/
def metricsText (mode : OutputMode) (counters : Counters) : String :=
  match mode with
  | json =>
    line (Json.object (counters.entries.map fun (name, n) => (name, .int n))).compact
  | plain | human => counters.text

end OutputMode

/-! ## Seed files -/

/-- Inserts the documents of collections and counts them, after `total` others. The collections before
the first that is refused stay. -/
def insertCollections (total : Nat) (workspace : Workspace) :
    List (String × Json) → Except Error Nat × Workspace
  | [] => (.ok total, workspace)
  | (name, items) :: rest =>
    match documentsOfJson items with
    | .error cause => (.error (.json cause), workspace)
    | .ok documents =>
      let ⟨database, activity⟩ := workspace
      let ⟨result, database, activity⟩ := database.insertMany name documents activity
      match result with
      | .error cause => (.error (.store cause), ⟨database, activity⟩)
      | .ok ids => insertCollections (total + ids.length) ⟨database, activity⟩ rest

/-- Inserts the documents of a seed file, an object with an array of documents for each collection, and
counts them. -/
def loadSeed {m : Type → Type} [Monad m] [FileSystem m] (path : String) (workspace : Workspace) :
    m (Except Error Nat × Workspace) := do
  match ← readText path with
  | none => pure (.error (.file path), workspace)
  | some text =>
    match Json.read? text with
    | none => pure (.error (.seedSyntax path), workspace)
    | some (.object collections) => pure (insertCollections 0 workspace collections)
    | some _ => pure (.error (.json .seedShape), workspace)

/-! ## Commands -/

namespace Command

/-- Runs a pipeline that takes `elapsed` milliseconds. -/
def runAggregate (elapsed : Nat) (mode : OutputMode) (collection pipeline : String)
    (now : Option String) (workspace : Workspace) : Except Error String × Workspace :=
  let request : Except Error Pipeline := do
    let now ← now.mapM fun text => (readInstant text).mapError Error.json
    Pipeline.read now pipeline
  match request with
  | .error cause => (.error cause, workspace)
  | .ok pipeline =>
    let (documents, completion) := (workspace.database.aggregate collection pipeline).drain elapsed
    (.ok (mode.documentsText documents),
      { workspace with activity := workspace.activity.enter completion })

/-- Inserts a document. -/
def runInsert (mode : OutputMode) (collection document : String) (workspace : Workspace) :
    Except Error String × Workspace :=
  match readDocument document with
  | .error cause => (.error (.json cause), workspace)
  | .ok fields =>
    let ⟨database, activity⟩ := workspace
    let ⟨result, database, activity⟩ := database.insertOne collection fields activity
    ((result.map (mode.insertedText collection)).mapError .store, ⟨database, activity⟩)

/-- Carries a command out; an aggregation takes `elapsed` milliseconds. -/
def run {m : Type → Type} [Monad m] [FileSystem m] (elapsed : Nat) (mode : OutputMode)
    (command : Command) (workspace : Workspace) : m (Except Error String × Workspace) :=
  match command with
  | aggregate collection pipeline now =>
    pure (runAggregate elapsed mode collection pipeline now workspace)
  | insert collection document => pure (runInsert mode collection document workspace)
  | load path => do
    let (result, workspace) ← loadSeed path workspace
    pure (result.map (mode.loadedText path), workspace)
  | collections => pure (.ok (mode.namesText workspace.database.names), workspace)
  | info => pure (.ok (mode.infoText workspace.database.sizes), workspace)
  | metrics => pure (.ok (mode.metricsText workspace.activity.counters), workspace)

end Command
end Docstore

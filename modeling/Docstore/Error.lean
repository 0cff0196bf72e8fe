import Docstore.Json.Error
import Docstore.Pipeline.Reader
import Docstore.Store.Error
import Docstore.Value.Extended

/-!
# `Docstore.Error` — everything that goes wrong
-/

namespace Docstore

/-- Why a request is not carried out. -/
inductive Error where
  | stage (invalid : InvalidStage)
  | store (cause : StoreError)
  | filter (cause : FilterError)
  | json (cause : JsonError)
  /-- A file cannot be read or written. -/
  | file (path : String)
  /-- A seed file is not JSON. -/
  | seedSyntax (path : String)
deriving Repr

/-- The wording of an error. -/
def Error.message : Error → String
  | stage invalid => invalid.message
  | store cause => cause.message
  | filter cause => "Query error: " ++ cause.message
  | json cause => "Invalid extended JSON: " ++ cause.message
  | file path => "I/O error: " ++ path
  | seedSyntax path => "malformed JSON in " ++ path

/-- Reads a filter from JSON. -/
def Filter.read (now : Option Instant) (text : String) : Except Error Filter := do
  let fields ← (readDocument text).mapError Error.json
  (Filter.ofFields now fields).mapError Error.filter

/-- Reads a pipeline from JSON. -/
def Pipeline.read (now : Option Instant) (text : String) : Except Error Pipeline := do
  let documents ← (readDocuments text).mapError Error.json
  (Pipeline.ofDocuments now documents).mapError Error.stage

end Docstore

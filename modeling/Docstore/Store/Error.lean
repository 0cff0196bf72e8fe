import Docstore.Store.Record

/-!
# `Docstore.Store.Error` — what is wrong with an operation on a database
-/

namespace Docstore

/-- Why an operation on a database fails. -/
inductive StoreError where
  /-- The identifier of a document of a batch is taken. -/
  | duplicateId (collection : String) (id : ObjectId) (position inserted : Nat)
  /-- A document of a batch has a bad `_id`. -/
  | invalidInBatch (collection : String) (position inserted : Nat) (cause : RecordError)
  /-- A single document has a bad `_id`. -/
  | invalidId (cause : RecordError)
  /-- A text is no identifier. -/
  | malformedId (text : String)
  | noSuchCollection (name : String)
deriving Repr

namespace StoreError

/-- The wording for a bad `_id`. -/
def invalidIdMessage (cause : RecordError) : String := "Invalid document ID: " ++ cause.message

/-- How far a batch got before a document was refused. -/
def progress (collection : String) (position inserted : Nat) : String :=
  " in collection " ++ collection ++ " at batch position " ++ toString position ++ " (" ++
    toString inserted ++ " inserted before it)"

/-- The wording of an error. -/
def message : StoreError → String
  | duplicateId collection id position inserted =>
    "duplicate _id " ++ id.hex ++ progress collection position inserted
  | invalidInBatch collection position inserted cause =>
    "invalid document" ++ progress collection position inserted ++ ": " ++ invalidIdMessage cause
  | invalidId cause => invalidIdMessage cause
  | malformedId text => "Invalid document ID: " ++ text
  | noSuchCollection name => "Collection not found: " ++ name

end StoreError

/-- Reads an identifier. -/
def ObjectId.parse (text : String) : Except StoreError ObjectId :=
  match ofHex? text with
  | some id => .ok id
  | none => .error (.malformedId text)

end Docstore

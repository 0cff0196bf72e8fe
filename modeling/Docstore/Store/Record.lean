import Docstore.Value.Text

/-!
# `Docstore.Store.Record` — documents in a collection

A `Record` is a document under an identifier. Its fields begin with `_id`, which holds the identifier.
A document that comes without `_id` is given a fresh one.
-/

namespace Docstore

/-- A document in a collection. -/
structure Record where
  id : ObjectId
  fields : Fields
deriving Inhabited, Repr

/-- What is wrong with the `_id` of a document. -/
inductive RecordError where
  | notIdentifier (found : Value)
  | changed (id : ObjectId) (found : Value)
deriving Repr

/-- The wording of an error. -/
def RecordError.message : RecordError → String
  | notIdentifier found => "_id must be an ObjectId, got " ++ found.shown
  | changed id found => "_id is immutable: " ++ id.hex ++ " cannot become " ++ found.shown

namespace Record

/-- The name of the field that holds the identifier. -/
def idField : String := "_id"

/-- A document under an identifier, whatever its `_id` was. -/
def withId (id : ObjectId) (fields : Fields) : Record :=
  ⟨id, (idField, .objectId id) :: fields.filter fun (name, _) => name ≠ idField⟩

/-- The record of a document, with a fresh identifier if it has none. -/
def ofFields (supply : IdSupply) (fields : Fields) : Except RecordError Record × IdSupply :=
  match Entries.get? idField fields with
  | some (.objectId id) => (.ok (withId id fields), supply)
  | some other => (.error (.notIdentifier other), supply)
  | none =>
    let (id, supply) := supply.take
    (.ok (withId id fields), supply)

/-- The record of a document that takes the place of another; its `_id`, if it has one, is the same. -/
def replacing (id : ObjectId) (fields : Fields) : Except RecordError Record :=
  match Entries.get? idField fields with
  | none => .ok (withId id fields)
  | some (.objectId other) =>
    if other = id then .ok (withId id fields) else .error (.changed id (.objectId other))
  | some other => .error (.changed id other)

end Record
end Docstore

import Docstore.Store.Record
import Std.Data.HashMap

/-!
# `Docstore.Store.Collection` — records in the order of their insertion

A `Collection` holds records and finds them by their identifiers, which are distinct.

## Contents
- **Single records.** `holds`, `add`, `find?`, `replace?`.
- **Insertion.** `insert` makes a record of a document and adds it. `insertAll` is a loop of its own over a
  batch: it stops at the first document that is refused, while those before it stay.
-/

namespace Docstore

/-- Records in the order of their insertion, and their places by identifier. -/
structure Collection where
  records : Array Record
  places : Std.HashMap ObjectId Nat

namespace Collection

/-- No records. -/
def empty : Collection := ⟨#[], ∅⟩

instance : Inhabited Collection := ⟨empty⟩

/-- The number of records. -/
def size (collection : Collection) : Nat := collection.records.size

/-- The documents, in the order of their insertion. -/
def documents (collection : Collection) : List Fields := collection.records.toList.map (·.fields)

/-! ## Single records -/

/-- Is there a record of an identifier? -/
def holds (collection : Collection) (id : ObjectId) : Bool := collection.places.contains id

/-- Adds a record, whose identifier is not taken, at the end. -/
def add (collection : Collection) (record : Record) : Collection :=
  let ⟨records, places⟩ := collection
  let place := records.size
  ⟨records.push record, places.insert record.id place⟩

/-- The record of an identifier. -/
def find? (collection : Collection) (id : ObjectId) : Option Record :=
  collection.places[id]?.bind fun place => collection.records[place]?

/-- Puts a record in the place of the one with its identifier, if there is one. -/
def replace? (collection : Collection) (record : Record) : Option Collection :=
  match collection.places[record.id]? with
  | none => none
  | some place =>
    let ⟨records, places⟩ := collection
    some ⟨records.setIfInBounds place record, places⟩

/-! ## Insertion -/

/-- Why a document is not inserted. -/
inductive Refusal where
  | invalid (cause : RecordError)
  | duplicate (id : ObjectId)
deriving Repr

/-- What the insertion of one document leaves behind. -/
structure Insertion where
  result : Except Refusal ObjectId
  collection : Collection
  supply : IdSupply

/-- Inserts one document. -/
def insert (collection : Collection) (supply : IdSupply) (fields : Fields) : Insertion :=
  match Record.ofFields supply fields with
  | (.error cause, supply) => ⟨.error (.invalid cause), collection, supply⟩
  | (.ok record, supply) =>
    if collection.holds record.id then ⟨.error (.duplicate record.id), collection, supply⟩
    else ⟨.ok record.id, collection.add record, supply⟩

/-- What the insertion of a batch leaves behind. -/
structure Batch where
  /-- The identifiers of the inserted documents, the latest first. -/
  inserted : List ObjectId
  /-- The position of the document that was not inserted, and why. -/
  refusal : Option (Nat × Refusal)
  collection : Collection
  supply : IdSupply

/-- Inserts the documents of a batch from `position` on, up to the first that is refused. Those of `inserted`
are in the collection already. -/
def insertAfter (position : Nat) (inserted : List ObjectId) (collection : Collection) (supply : IdSupply) :
    List Fields → Batch
  | [] => ⟨inserted, none, collection, supply⟩
  | fields :: rest =>
    match Record.ofFields supply fields with
    | (.error cause, supply) => ⟨inserted, some (position, .invalid cause), collection, supply⟩
    | (.ok record, supply) =>
      if collection.holds record.id then
        ⟨inserted, some (position, .duplicate record.id), collection, supply⟩
      else insertAfter (position + 1) (record.id :: inserted) (collection.add record) supply rest

/-- Inserts the documents of a batch up to the first that is refused. -/
def insertAll (collection : Collection) (supply : IdSupply) (documents : List Fields) : Batch :=
  insertAfter 0 [] collection supply documents

end Collection
end Docstore

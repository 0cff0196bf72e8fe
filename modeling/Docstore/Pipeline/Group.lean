import Docstore.Double.Rounding
import Docstore.Expression.Basic
import Docstore.Value.Key
import Std.Data.HashMap

/-!
# `Docstore.Pipeline.Group` — one document per key

A `Group` splits documents into buckets of equal key, in the order in which the keys are first seen, and
makes one document of each bucket: the key of its first document, then one field per accumulator. It does
so in one pass: a bucket keeps no documents but a tally for each field.

## Contents
- **Totals.** `Total` adds numbers: integers exactly while they fit 64 bits, everything as doubles
  afterwards.
- **Accumulators.** `Tally` is what an accumulator knows so far; `Accumulator.start` and
  `Accumulator.update` make it, `Tally.value` is what it comes to.
- **Buckets.** `Group.buckets` finds them with a hash table, `Group.run` writes them out.
-/

namespace Docstore

/-! ## Totals -/

/-- A running total. -/
inductive Total where
  /-- Only integers so far, and every total of them within 64 bits. -/
  | whole (sum : Int)
  | double (sum : Double)
deriving Repr

namespace Total

/-- The total as a double. -/
def toDouble : Total → Double
  | whole sum => Double.ofInt sum
  | double sum => sum

/-- Adds an integer. -/
def addInteger (n : Int) : Total → Total
  | whole sum =>
    if Double.int64Low ≤ sum + n ∧ sum + n ≤ Double.int64High then whole (sum + n)
    else double (Double.ofInt sum + Double.ofInt n)
  | double sum => double (sum + Double.ofInt n)

/-- Adds a value; one that is no number adds nothing. -/
def add (total : Total) (value : Value) : Total :=
  match value.integer? with
  | some n => total.addInteger n.toInt
  | none =>
    match value.toDouble? with
    | some x => double (total.toDouble + x)
    | none => total

/-- The value of a total: the smallest integer that holds it, or a double. -/
def value : Total → Value
  | whole sum => .ofInt64 (Int64.ofInt sum)
  | double sum => .double sum

end Total

/-! ## Accumulators -/

/-- What a field of a group is made of. -/
inductive Accumulator where
  /-- The total of the numbers among the values. -/
  | sum (expression : Expression)
  /-- The number of documents. -/
  | count
  /-- The first value that is not missing. -/
  | first (expression : Expression)
deriving Repr

/-- What an accumulator knows of the documents so far. -/
inductive Tally where
  | sum (total : Total)
  | count (documents : Int64)
  /-- The first value, if any was not missing. -/
  | first (value : Option Value)
deriving Repr

/-- What a tally comes to. -/
def Tally.value : Tally → Value
  | sum total => total.value
  | count documents => .ofInt64 documents
  | first value => value.getD .null

namespace Accumulator

/-- The tally of no documents. -/
def start : Accumulator → Tally
  | sum _ => .sum (.whole 0)
  | count => .count 0
  | first _ => .first none

/-- Adds a document to a tally. -/
def update (document : Fields) : Accumulator → Tally → Tally
  | sum expression, .sum total =>
    match expression.eval document with
    | some value => .sum (total.add value)
    | none => .sum total
  | count, .count documents => .count (documents + 1)
  | first expression, .first none => .first (expression.eval document)
  | _, tally => tally

end Accumulator

/-! ## Buckets -/

/-- A key and the fields made of the documents that share it. -/
structure Group where
  key : Expression
  fields : List (String × Accumulator)
deriving Repr

/-- What is known of the documents of one key: the key of the first of them, and a tally for each field. -/
structure Bucket where
  key : Value
  tallies : List Tally
deriving Inhabited

namespace Group

/-- The key of a document; a missing one counts as null. -/
def keyOf (group : Group) (document : Fields) : Value := (group.key.eval document).getD .null

/-- A bucket of no documents. -/
def newBucket (group : Group) (key : Value) : Bucket :=
  ⟨key, group.fields.map fun field => field.2.start⟩

/-- Adds a document to a bucket. -/
def tally (group : Group) (document : Fields) (bucket : Bucket) : Bucket :=
  { bucket with tallies :=
      List.zipWith (fun field tally => field.2.update document tally) group.fields bucket.tallies }

/-- Buckets in the order of their first documents, and their places by key. -/
structure Buckets where
  places : Std.HashMap ValueKey Nat
  inOrder : Array Bucket

namespace Buckets

/-- No buckets. -/
def empty : Buckets := ⟨∅, #[]⟩

/-- The place of the bucket of a key, which is made if it is not there. -/
def place (group : Group) (key : Value) (buckets : Buckets) : Nat × Buckets :=
  let ⟨places, inOrder⟩ := buckets
  let slot := ValueKey.of key
  match places[slot]? with
  | some place => (place, ⟨places, inOrder⟩)
  | none => (inOrder.size, ⟨places.insert slot inOrder.size, inOrder.push (group.newBucket key)⟩)

/-- Adds a document to the bucket of its key. -/
def add (group : Group) (buckets : Buckets) (document : Fields) : Buckets :=
  let (place, ⟨places, inOrder⟩) := buckets.place group (group.keyOf document)
  ⟨places, inOrder.modify place (group.tally document)⟩

end Buckets

/-- The buckets of some documents. -/
def buckets (group : Group) (documents : List Fields) : Buckets :=
  documents.foldl (Buckets.add group) .empty

/-- The document made of a bucket. -/
def summary (group : Group) (bucket : Bucket) : Fields :=
  (group.fields.zip bucket.tallies).foldl
    (fun out entry => Entries.insert entry.1.1 entry.2.value out) [("_id", bucket.key)]

/-- One document per key. -/
def run (group : Group) (documents : List Fields) : List Fields :=
  (group.buckets documents).inOrder.toList.map group.summary

end Group
end Docstore

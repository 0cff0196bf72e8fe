import Docstore.Decimal
import Docstore.Entries
import Docstore.Instant.Basic
import Docstore.ObjectId

/-!
# `Docstore.Value.Basic` — the values that documents hold

A document is an ordered list of named values; values nest through documents, arrays and the scopes of
code.
-/

namespace Docstore

/-- A value. -/
inductive Value where
  | null
  | undefined
  | bool (value : Bool)
  | int32 (value : Int32)
  | int64 (value : Int64)
  | double (value : Double)
  | decimal (value : Decimal)
  | string (value : String)
  | symbol (value : String)
  | document (fields : List (String × Value))
  | array (items : List Value)
  | binary (subtype : UInt8) (bytes : List UInt8)
  | objectId (value : ObjectId)
  | dateTime (value : Instant)
  | timestamp (time increment : UInt32)
  | regex (pattern options : String)
  | code (text : String)
  | scopedCode (text : String) (scope : List (String × Value))
  | reference (collection : String) (id : ObjectId)
  | minKey
  | maxKey
deriving Inhabited, Repr

/-- The contents of a document. -/
abbrev Fields := List (String × Value)

namespace Value

/-- The fields of a document; other values have none. -/
def fields? : Value → Option Fields
  | document fields => some fields
  | _ => none

/-- The integer of a 32-bit or 64-bit integer value. -/
def integer? : Value → Option Int64
  | int32 n => some n.toInt64
  | int64 n => some n
  | _ => none

/-- The text of a string or symbol. -/
def text? : Value → Option String
  | string s => some s
  | symbol s => some s
  | _ => none

/-- The double nearest to a number. -/
def toDouble? : Value → Option Double
  | int32 n => some (Double.ofInt n.toInt)
  | int64 n => some (Double.ofInt n.toInt)
  | double x => some x
  | decimal d => some d.toDouble
  | _ => none

/-- The smallest integer value that holds a 64-bit integer. -/
def ofInt64 (n : Int64) : Value :=
  if Int32.minValue.toInt ≤ n.toInt ∧ n.toInt ≤ Int32.maxValue.toInt then int32 n.toInt32
  else int64 n

/-- A whole number: an integer, or a double without fractional part cut to 64 bits. -/
def wholeNumber? : Value → Option Int
  | int32 n => some n.toInt
  | int64 n => some n.toInt
  | double x => if x.isWhole then some x.toInt64.toInt else none
  | _ => none

end Value
end Docstore

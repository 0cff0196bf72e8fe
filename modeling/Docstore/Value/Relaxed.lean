import Docstore.Json.Printer
import Docstore.Text.Base64
import Docstore.Value.Basic

/-!
# `Docstore.Value.Relaxed` — values as extended JSON

Results are written as JSON that looks plain where it can: numbers as numbers, dates from 1970 on as
timestamps. Values that JSON does not have become objects with a key that names their kind.
-/

namespace Docstore

namespace Value

/-- An object with one member. -/
def tagged (key : String) (value : Json) : Json := .object [(key, value)]

/-- A double in JSON: the numbers that JSON does not have by name, and by their sign. -/
def doubleJson (x : Double) : Json :=
  if x.isFinite then .double x
  else
    let name := if x.isNaN then "NaN" else "Infinity"
    tagged "$numberDouble" (.string (if x.isNegative then "-" ++ name else name))

/-- A date in JSON. -/
def instantJson (t : Instant) : Json :=
  tagged "$date" (if 0 ≤ t.toInt then .string t.isoText
    else tagged "$numberLong" (.string (toString t.toInt)))

/-- An identifier in JSON. -/
def objectIdJson (id : ObjectId) : Json := tagged "$oid" (.string id.hex)

mutual

/-- A value in JSON. -/
def toJson : Value → Json
  | null => .null
  | undefined => tagged "$undefined" (.bool true)
  | bool b => .bool b
  | int32 n => .int n.toInt
  | int64 n => .int n.toInt
  | double x => doubleJson x
  | decimal d => tagged "$numberDecimal" (.string d.text)
  | string s => .string s
  | symbol s => tagged "$symbol" (.string s)
  | document fields => .object (fieldsToJson fields)
  | array items => .array (itemsToJson items)
  | binary subtype bytes =>
    tagged "$binary" (.object [("base64", .string (Text.Base64.encode bytes)),
      ("subType", .string (Text.hexOfBytes [subtype]))])
  | objectId id => objectIdJson id
  | dateTime t => instantJson t
  | timestamp time increment =>
    tagged "$timestamp" (.object [("t", .int time.toNat), ("i", .int increment.toNat)])
  | regex pattern options =>
    tagged "$regularExpression" (.object [("pattern", .string pattern), ("options", .string options)])
  | code text => tagged "$code" (.string text)
  | scopedCode text scope =>
    .object [("$code", .string text), ("$scope", .object (fieldsToJson scope))]
  | reference collection id =>
    tagged "$dbPointer" (.object [("$ref", .string collection), ("$id", objectIdJson id)])
  | minKey => tagged "$minKey" (.int 1)
  | maxKey => tagged "$maxKey" (.int 1)

/-- The fields of a document in JSON. -/
def fieldsToJson : List (String × Value) → List (String × Json)
  | [] => []
  | (name, value) :: rest => (name, toJson value) :: fieldsToJson rest

/-- The items of an array in JSON. -/
def itemsToJson : List Value → List Json
  | [] => []
  | value :: rest => toJson value :: itemsToJson rest

end

end Value

/-- A document in JSON. -/
def documentToJson (fields : Fields) : Json := .object (Value.fieldsToJson fields)

end Docstore

import Docstore.Double.Basic
import Docstore.Entries

/-!
# `Docstore.Json.Basic` — JSON values

Objects keep the order of their members and name nothing twice. Whole numbers written without a point
or an exponent stay integers as long as 64 bits hold them; every other number is a double.
-/

namespace Docstore

/-- A JSON value. -/
inductive Json where
  | null
  | bool (value : Bool)
  | int (value : Int)
  | double (value : Double)
  | string (value : String)
  | array (items : List Json)
  | object (members : List (String × Json))
deriving Inhabited

namespace Json

/-- The kinds of JSON values. -/
inductive Kind where
  | null | boolean | number | string | array | object
deriving DecidableEq, Repr

/-- The kind of a value. -/
def kind : Json → Kind
  | null => .null
  | bool _ => .boolean
  | int _ | double _ => .number
  | string _ => .string
  | array _ => .array
  | object _ => .object

/-- The name of a kind in messages. -/
def Kind.name : Kind → String
  | .null => "null"
  | .boolean => "boolean"
  | .number => "number"
  | .string => "string"
  | .array => "array"
  | .object => "object"

/-- The member of a name; values other than objects have none. -/
def get? (name : String) : Json → Option Json
  | object members => Entries.get? name members
  | _ => none

end Json
end Docstore

import Docstore.Double.Notation
import Docstore.Text.Base64
import Docstore.Text.Quoted
import Docstore.Value.Basic

/-!
# `Docstore.Value.Text` — two written forms of values

`shown` is how messages show a value. `debug` is a longer form that names the kind of every value; it
tells apart all values that have no order of their own, and such values are ordered by it.
-/

namespace Docstore.Value

/-- Texts with a comma and a blank between them. -/
def listed : List String → String
  | [] => ""
  | [s] => s
  | s :: rest => s ++ ", " ++ listed rest

/-! ## Messages -/

mutual

/-- A value as messages show it. -/
def shown : Value → String
  | null => "null"
  | undefined => "undefined"
  | bool b => if b then "true" else "false"
  | int32 n => toString n.toInt
  | int64 n => toString n.toInt
  | double x => x.render Double.plainStyle
  | decimal d => d.text
  | string s => "\"" ++ s ++ "\""
  | symbol s => "Symbol(\"" ++ s ++ "\")"
  | document fields =>
    if fields.isEmpty then "\x7b\x7d" else "\x7b " ++ listed (shownFields fields) ++ " \x7d"
  | array items => "[" ++ listed (shownItems items) ++ "]"
  | binary subtype bytes =>
    "Binary(0x" ++ String.ofList (Text.hexNumeral subtype.toNat) ++ ", " ++
      Text.Base64.encode bytes ++ ")"
  | objectId id => "ObjectId(\"" ++ id.hex ++ "\")"
  | dateTime t => "DateTime(\"" ++ t.plainText ++ "\")"
  | timestamp time increment =>
    "Timestamp(" ++ toString time.toNat ++ ", " ++ toString increment.toNat ++ ")"
  | regex pattern options => "/" ++ pattern ++ "/" ++ options
  | code text => text
  | scopedCode text _ => text
  | reference collection id => "DbPointer(" ++ collection ++ ", " ++ id.hex ++ ")"
  | minKey => "MinKey"
  | maxKey => "MaxKey"

/-- The fields of a document as messages show them. -/
def shownFields : List (String × Value) → List String
  | [] => []
  | (name, value) :: rest => ("\"" ++ name ++ "\": " ++ shown value) :: shownFields rest

/-- The items of an array as messages show them. -/
def shownItems : List Value → List String
  | [] => []
  | value :: rest => shown value :: shownItems rest

end

/-! ## Debugging text -/

/-- The name of a kind of binary data. -/
def subtypeName (subtype : UInt8) : String :=
  match subtype.toNat with
  | 0 => "Generic"
  | 1 => "Function"
  | 2 => "BinaryOld"
  | 3 => "UuidOld"
  | 4 => "Uuid"
  | 5 => "Md5"
  | 6 => "Encrypted"
  | 7 => "Column"
  | 8 => "Sensitive"
  | 9 => "Vector"
  | n => (if 128 ≤ n then "UserDefined(" else "Reserved(") ++ toString n ++ ")"

/-- An identifier in debugging text. -/
def debugId (id : ObjectId) : String := "ObjectId(\"" ++ id.hex ++ "\")"

mutual

/-- A value in debugging text. -/
def debug : Value → String
  | null => "Null"
  | undefined => "Undefined"
  | bool b => if b then "Boolean(true)" else "Boolean(false)"
  | int32 n => "Int32(" ++ toString n.toInt ++ ")"
  | int64 n => "Int64(" ++ toString n.toInt ++ ")"
  | double x => "Double(" ++ x.render Double.debugStyle ++ ")"
  | decimal d => "Decimal128(" ++ Text.hexOfBytes d.bytes ++ ")"
  | string s => "String(" ++ Text.quoted s ++ ")"
  | symbol s => "Symbol(" ++ Text.quoted s ++ ")"
  | document fields => "Document(\x7b" ++ listed (debugFields fields) ++ "\x7d)"
  | array items => "Array([" ++ listed (debugItems items) ++ "])"
  | binary subtype bytes =>
    "Binary \x7b subtype: " ++ subtypeName subtype ++ ", bytes: [" ++
      listed (bytes.map fun b => toString b.toNat) ++ "] \x7d"
  | objectId id => debugId id
  | dateTime t => "DateTime(" ++ t.plainText ++ ")"
  | timestamp time increment =>
    "Timestamp \x7b time: " ++ toString time.toNat ++ ", increment: " ++ toString increment.toNat ++
      " \x7d"
  | regex pattern options =>
    "Regex \x7b pattern: " ++ Text.quoted pattern ++ ", options: " ++ Text.quoted options ++ " \x7d"
  | code text => "JavaScriptCode(" ++ Text.quoted text ++ ")"
  | scopedCode text scope =>
    "JavaScriptCodeWithScope \x7b code: " ++ Text.quoted text ++ ", scope: Document(\x7b" ++
      listed (debugFields scope) ++ "\x7d) \x7d"
  | reference collection id =>
    "DbPointer \x7b namespace: " ++ Text.quoted collection ++ ", id: " ++ debugId id ++ " \x7d"
  | minKey => "MinKey"
  | maxKey => "MaxKey"

/-- The fields of a document in debugging text. -/
def debugFields : List (String × Value) → List String
  | [] => []
  | (name, value) :: rest => (Text.quoted name ++ ": " ++ debug value) :: debugFields rest

/-- The items of an array in debugging text. -/
def debugItems : List Value → List String
  | [] => []
  | value :: rest => debug value :: debugItems rest

end

end Docstore.Value

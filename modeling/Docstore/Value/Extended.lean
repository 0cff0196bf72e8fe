import Docstore.Instant.Reading
import Docstore.Json.Error
import Docstore.Json.Reader
import Docstore.Text.Base64
import Docstore.Value.Basic

/-!
# `Docstore.Value.Extended` — values from extended JSON

An object with one of the keys of `Special` stands for a value that JSON itself does not have; any other
object is a document. The outermost object of a document always is a document.

## Contents
- **Special objects.** `Special`, and one reader per kind.
- **Values.** `Value.ofJson?`, `Value.fieldsOfJson`.
- **Documents.** `documentOfJson`, `documentsOfJson`, `readDocument`, `readDocuments`.
-/

namespace Docstore

/-! ## Special objects -/

/-- The kinds of special objects. -/
inductive Special where
  | oid | symbol | regularExpression | numberInt | numberLong | numberDouble | numberDecimal | binary
  | uuid | code | timestamp | date | minKey | maxKey | dbPointer | undefined
deriving DecidableEq, Repr

namespace Special

/-- The key that marks a special object. -/
def key : Special → String
  | oid => "$oid"
  | symbol => "$symbol"
  | regularExpression => "$regularExpression"
  | numberInt => "$numberInt"
  | numberLong => "$numberLong"
  | numberDouble => "$numberDouble"
  | numberDecimal => "$numberDecimal"
  | binary => "$binary"
  | uuid => "$uuid"
  | code => "$code"
  | timestamp => "$timestamp"
  | date => "$date"
  | minKey => "$minKey"
  | maxKey => "$maxKey"
  | dbPointer => "$dbPointer"
  | undefined => "$undefined"

/-- All kinds. Of several keys in one object the first of this list decides. -/
def all : List Special :=
  [oid, symbol, regularExpression, numberInt, numberLong, numberDouble, numberDecimal, binary, uuid,
    code, timestamp, date, minKey, maxKey, dbPointer, undefined]

/-- The kind of an object, if it is special. -/
def of? (members : List (String × Json)) : Option Special :=
  all.find? fun special => Entries.has special.key members

/-- The only member of an object. -/
def only? : List (String × Json) → Option Json
  | [(_, value)] => some value
  | _ => none

/-- The members of a body under the given names: an object with exactly those names, or an array of
that many values. -/
def body? (names : List String) : Json → Option (List Json)
  | .object members =>
    if members.length = names.length then names.mapM fun name => Entries.get? name members
    else none
  | .array items => if items.length = names.length then some items else none
  | _ => none

/-- The text of a string. -/
def text? : Json → Option String
  | .string s => some s
  | _ => none

/-- A text without the zero character. -/
def plainText? (value : Json) : Option String := do
  let s ← text? value
  if s.toList.contains '\x00' then none else some s

/-- A 32-bit unsigned integer. -/
def word? : Json → Option UInt32
  | .int n => if 0 ≤ n ∧ n < 0x100000000 then some (UInt32.ofNat n.toNat) else none
  | _ => none

/-- A signed 64-bit integer in decimal digits. -/
def long? (value : Json) : Option Int := do
  let s ← text? value
  Text.integerWithin? Double.int64Low Double.int64High s.toList

/-- The special names of doubles, and any number. -/
def double? (s : String) : Option Double :=
  if s = "Infinity" then some (Double.infinity false)
  else if s = "-Infinity" then some (Double.infinity true)
  else if s = "NaN" then some Double.nan
  else Double.read? s.toList

/-- The sixteen bytes of hexadecimal digits in groups of 8, 4, 4, 4 and 12. -/
def hyphenated? (cs : List Char) : Option (List UInt8) :=
  let hyphens := [cs[8]?, cs[13]?, cs[18]?, cs[23]?]
  if cs.length = 36 && hyphens.all (· == some '-') then
    Text.hexBytes? (cs.take 8 ++ (cs.drop 9).take 4 ++ (cs.drop 14).take 4 ++ (cs.drop 19).take 4 ++
      cs.drop 24)
  else none

/-- The sixteen bytes of a universally unique identifier: bare digits, groups, groups in braces, or
groups after `urn:uuid:` in either case. -/
def uuidBytes? (cs : List Char) : Option (List UInt8) :=
  if cs.length = 32 then Text.hexBytes? cs
  else if cs.length = 38 && cs.head? == some '\x7b' && cs.getLast? == some '\x7d' then
    hyphenated? ((cs.drop 1).take 36)
  else if cs.length = 45 && (cs.take 9).map Text.lowerChar == "urn:uuid:".toList then hyphenated? (cs.drop 9)
  else hyphenated? cs

/-- The identifier of a body with the member `$oid`. -/
def objectId? (value : Json) : Option ObjectId :=
  match body? [oid.key] value with
  | some [.string s] => ObjectId.ofHex? s
  | _ => none

/-- A date: milliseconds as digits or as an integer, or a timestamp. -/
def instant? : Json → Option Instant
  | .string s => Instant.read? Instant.stored s
  | .int n =>
    if Double.int64Low ≤ n ∧ n ≤ Double.int64High then some (Instant.ofMillis n) else none
  | value =>
    match body? [numberLong.key] value with
    | some [digits] => (long? digits).map Instant.ofMillis
    | _ => none

/-- The characters of a text in ascending order. -/
def sortedText (s : String) : String :=
  String.ofList (s.toList.mergeSort fun a b => a.toNat ≤ b.toNat)

/-- Bytes with the two digits of their subtype. -/
def binary? (base64 subtype : Json) : Option Value := do
  let bytes ← Text.Base64.decode? (← text? base64).toList
  match ← Text.hexBytes? (← text? subtype).toList with
  | [subtype] => some (.binary subtype bytes)
  | _ => none

/-- A special value that holds no other values. -/
def scalar? (special : Special) (value : Json) : Option Value :=
  match special with
  | oid => do return .objectId (← ObjectId.ofHex? (← text? value))
  | symbol => do return .symbol (← text? value)
  | regularExpression => do
    match ← body? ["pattern", "options"] value with
    | [pattern, options] =>
      return .regex (← plainText? pattern) (sortedText (← plainText? options))
    | _ => none
  | numberInt => do
    let n ← Text.integerWithin? (-0x80000000) 0x7FFFFFFF (← text? value).toList
    return .int32 (Int32.ofInt n)
  | numberLong => do return .int64 (Int64.ofInt (← long? value))
  | numberDouble => do return .double (← double? (← text? value))
  | numberDecimal => do return .decimal (← Decimal.read? (← text? value))
  | binary => do
    match ← body? ["base64", "subType"] value with
    | [base64, subtype] => binary? base64 subtype
    | _ => none
  | uuid => do return .binary 4 (← uuidBytes? (← text? value).toList)
  | code => do return .code (← text? value)
  | timestamp => do
    match ← body? ["t", "i"] value with
    | [time, increment] => return .timestamp (← word? time) (← word? increment)
    | _ => none
  | date => do return .dateTime (← instant? value)
  | minKey => match value with
    | .int 1 => some .minKey
    | _ => none
  | maxKey => match value with
    | .int 1 => some .maxKey
    | _ => none
  | dbPointer => do
    match ← body? ["$ref", "$id"] value with
    | [collection, id] => return .reference (← text? collection) (← objectId? id)
    | _ => none
  | undefined => match value with
    | .bool true => some .undefined
    | _ => none

end Special

/-! ## Values -/

namespace Value

/-- The smallest number kind that holds a JSON integer. -/
def ofInteger (n : Int) : Value :=
  if -0x80000000 ≤ n ∧ n < 0x80000000 then .int32 (Int32.ofInt n)
  else if Double.int64Low ≤ n ∧ n ≤ Double.int64High then .int64 (Int64.ofInt n)
  else .double (Double.ofInt n)

/-- The error of a special object. -/
def malformed (special : Special) : JsonError := .badSpecial special.key

mutual

/-- The value of extended JSON. -/
def ofJson : Json → Except JsonError Value
  | .null => .ok null
  | .bool b => .ok (bool b)
  | .int n => .ok (ofInteger n)
  | .double x => .ok (double x)
  | .string s => .ok (string s)
  | .array items => (itemsOfJson items).map array
  | .object members =>
    match Special.of? members with
    | none => (fieldsOfJson members).map document
    | some .code =>
      match Entries.get? "$code" members, members.length, Entries.has "$scope" members with
      | some (.string text), 1, _ => .ok (code text)
      | some (.string text), 2, true =>
        match scopeOfJson members with
        | .ok (some scope) => .ok (scopedCode text scope)
        | .ok none => .ok (code text)
        | .error e => .error e
      | _, _, _ => .error (malformed .code)
    | some special =>
      match (Special.only? members).bind special.scalar? with
      | some value => .ok value
      | none => .error (malformed special)

/-- The items of an array. -/
def itemsOfJson : List Json → Except JsonError (List Value)
  | [] => .ok []
  | item :: rest => do
    let value ← ofJson item
    let values ← itemsOfJson rest
    return value :: values

/-- The fields of a document. -/
def fieldsOfJson : List (String × Json) → Except JsonError (List (String × Value))
  | [] => .ok []
  | (name, member) :: rest => do
    let value ← ofJson member
    let fields ← fieldsOfJson rest
    return (name, value) :: fields

/-- The scope among the members of a code object; null stands for none. -/
def scopeOfJson : List (String × Json) → Except JsonError (Option (List (String × Value)))
  | [] => .ok none
  | (name, member) :: rest =>
    if name = "$scope" then
      match member with
      | .null => .ok none
      | .object members => (fieldsOfJson members).map some
      | _ => .error (malformed .code)
    else scopeOfJson rest

end

end Value

/-! ## Documents -/

/-- The document of a JSON object. -/
def documentOfJson : Json → Except JsonError Fields
  | .object members => Value.fieldsOfJson members
  | value => .error (.unexpected .object value.kind)

/-- The documents of a JSON array of objects. -/
def documentsOfJson : Json → Except JsonError (List Fields)
  | .array items => items.mapM documentOfJson
  | value => .error (.unexpected .array value.kind)

/-- The document of a text. -/
def readDocument (text : String) : Except JsonError Fields :=
  match Json.read? text with
  | some value => documentOfJson value
  | none => .error .malformed

/-- The documents of a text. -/
def readDocuments (text : String) : Except JsonError (List Fields) :=
  match Json.read? text with
  | some value => documentsOfJson value
  | none => .error .malformed

/-- The instant of a text that a caller gives for now. -/
def readInstant (text : String) : Except JsonError Instant :=
  match Instant.read? Instant.reference text with
  | some t => .ok t
  | none => .error (.badInstant text)

end Docstore

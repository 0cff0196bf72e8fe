import Docstore.Value.Order

/-!
# `Docstore.Value.Key` — hashable keys of values

Groups and joins find equal values through a hash table. `ValueKey.of` is the key under which a value
is entered there: integers and whole doubles share a key, as do null and undefined, and strings and
symbols; values without an order of their own have their debugging text.

## Contents
- **Keys.** `ValueKey`, its decidable equality and its hash.
- **Keys of values.** `ValueKey.ofDouble`, `ValueKey.of`, `ValueKey.ofOption`.
-/

namespace Docstore

/-! ## Keys -/

/-- What a hash table knows of a value. -/
inductive ValueKey where
  | null
  | int (value : Int64)
  | float (value : Double)
  | text (value : String)
  | bool (value : Bool)
  | objectId (value : ObjectId)
  | dateTime (value : Instant)
  | array (items : List ValueKey)
  | document (fields : List (String × ValueKey))
  | other (debug : String)
deriving Hashable, Inhabited

namespace ValueKey

mutual

/-- Are two keys the same? -/
def same : ValueKey → ValueKey → Bool
  | null, null => true
  | int a, int b => a == b
  | float a, float b => a == b
  | text a, text b => a == b
  | bool a, bool b => a == b
  | objectId a, objectId b => a == b
  | dateTime a, dateTime b => a == b
  | array a, array b => sameItems a b
  | document a, document b => sameFields a b
  | other a, other b => a == b
  | _, _ => false

/-- Are two lists of keys the same? -/
def sameItems : List ValueKey → List ValueKey → Bool
  | [], [] => true
  | a :: rest, b :: rest' => same a b && sameItems rest rest'
  | _, _ => false

/-- Are two lists of named keys the same? -/
def sameFields : List (String × ValueKey) → List (String × ValueKey) → Bool
  | [], [] => true
  | (name, a) :: rest, (name', b) :: rest' => name == name' && (same a b && sameFields rest rest')
  | _, _ => false

end

mutual

theorem same_self : ∀ a : ValueKey, same a a = true
  | null => by simp [same]
  | int _ => by simp [same]
  | float _ => by simp [same]
  | text _ => by simp [same]
  | bool _ => by simp [same]
  | objectId _ => by simp [same]
  | dateTime _ => by simp [same]
  | array items => by simp [same, sameItems_self items]
  | document fields => by simp [same, sameFields_self fields]
  | other _ => by simp [same]

theorem sameItems_self : ∀ items : List ValueKey, sameItems items items = true
  | [] => by simp [sameItems]
  | a :: rest => by simp [sameItems, same_self a, sameItems_self rest]

theorem sameFields_self : ∀ fields : List (String × ValueKey), sameFields fields fields = true
  | [] => by simp [sameFields]
  | (_, a) :: rest => by simp [sameFields, same_self a, sameFields_self rest]

end

mutual

theorem eq_of_same : ∀ {a b : ValueKey}, same a b = true → a = b
  | null, b, h => by cases b <;> simp_all [same]
  | int _, b, h => by cases b <;> simp_all [same]
  | float _, b, h => by cases b <;> simp_all [same]
  | text _, b, h => by cases b <;> simp_all [same]
  | bool _, b, h => by cases b <;> simp_all [same]
  | objectId _, b, h => by cases b <;> simp_all [same]
  | dateTime _, b, h => by cases b <;> simp_all [same]
  | array items, b, h => by
    cases b <;> simp [same] at h
    rw [eq_of_sameItems h]
  | document fields, b, h => by
    cases b <;> simp [same] at h
    rw [eq_of_sameFields h]
  | other _, b, h => by cases b <;> simp_all [same]

theorem eq_of_sameItems : ∀ {a b : List ValueKey}, sameItems a b = true → a = b
  | [], b, h => by cases b <;> simp_all [sameItems]
  | a :: rest, b, h => by
    cases b <;> simp [sameItems] at h
    rw [eq_of_same h.1, eq_of_sameItems h.2]

theorem eq_of_sameFields : ∀ {a b : List (String × ValueKey)}, sameFields a b = true → a = b
  | [], b, h => by cases b <;> simp_all [sameFields]
  | (name, a) :: rest, b, h => by
    cases b with
    | nil => simp [sameFields] at h
    | cons entry rest' =>
      obtain ⟨name', b⟩ := entry
      simp [sameFields] at h
      rw [h.1, eq_of_same h.2.1, eq_of_sameFields h.2.2]

end

instance : DecidableEq ValueKey := fun a b =>
  decidable_of_iff (same a b = true) ⟨eq_of_same, fun h => h ▸ same_self a⟩

/-! ## Keys of values -/

/-- The key of a double. A whole double within 64-bit integers has the key of that integer; all
not-a-numbers share one key. -/
def ofDouble (x : Double) : ValueKey :=
  if x.isWhole && Double.int64Low ≤ x.truncate && x.truncate ≤ Double.int64High then int x.toInt64
  else if x.isNaN then float Double.nan
  else float x

mutual

/-- The key of a value. -/
def of : Value → ValueKey
  | .null | .undefined => null
  | .int32 n => int n.toInt64
  | .int64 n => int n
  | .double x => ofDouble x
  | .decimal d => ofDouble d.toDouble
  | .string s | .symbol s => text s
  | .bool b => bool b
  | .objectId id => objectId id
  | .dateTime t => dateTime t
  | .array items => array (ofItems items)
  | .document fields => document (ofFields fields)
  | .binary subtype bytes => other (Value.binary subtype bytes).debug
  | .timestamp time increment => other (Value.timestamp time increment).debug
  | .regex pattern options => other (Value.regex pattern options).debug
  | .code s => other (Value.code s).debug
  | .scopedCode s scope => other (Value.scopedCode s scope).debug
  | .reference collection id => other (Value.reference collection id).debug
  | .minKey => other Value.minKey.debug
  | .maxKey => other Value.maxKey.debug

/-- The keys of the items of an array. -/
def ofItems : List Value → List ValueKey
  | [] => []
  | value :: rest => of value :: ofItems rest

/-- The keys of the fields of a document. -/
def ofFields : List (String × Value) → List (String × ValueKey)
  | [] => []
  | (name, value) :: rest => (name, of value) :: ofFields rest

end

/-- The key of a value that may be missing; a missing one has the key of null. -/
def ofOption : Option Value → ValueKey
  | some value => of value
  | none => null

end ValueKey
end Docstore

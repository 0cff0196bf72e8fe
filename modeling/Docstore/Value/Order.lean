import Docstore.Value.Text

/-!
# `Docstore.Value.Order` — comparing values

Values fall into classes, and the classes are ordered. `order` compares any two values: by class, then
within the class, which alone is `compareInClass`. Numbers of different kinds compare by value;
documents and arrays compare entry by entry.
-/

namespace Docstore

/-! ## Classes -/

/-- The classes of values, in order. -/
inductive TypeClass where
  | minKey | null | number | string | document | array | binary | objectId | boolean | dateTime
  | timestamp | regex | other | maxKey
deriving DecidableEq, Repr

namespace TypeClass

/-- The place of a class among all classes. -/
def rank : TypeClass → Nat
  | minKey => 0
  | null => 1
  | number => 2
  | string => 3
  | document => 4
  | array => 5
  | binary => 6
  | objectId => 7
  | boolean => 8
  | dateTime => 9
  | timestamp => 10
  | regex => 11
  | other => 12
  | maxKey => 13

end TypeClass

namespace Value

/-- The class of a value. -/
def typeClass : Value → TypeClass
  | minKey => .minKey
  | null | undefined => .null
  | int32 _ | int64 _ | double _ | decimal _ => .number
  | string _ | symbol _ => .string
  | document _ => .document
  | array _ => .array
  | binary _ _ => .binary
  | objectId _ => .objectId
  | bool _ => .boolean
  | dateTime _ => .dateTime
  | timestamp _ _ => .timestamp
  | regex _ _ => .regex
  | code _ | scopedCode _ _ | reference _ _ => .other
  | maxKey => .maxKey

/-! ## Scalars -/

/-- Orders two numbers: integers exactly, other pairs as doubles in total order. -/
def compareNumbers (a b : Value) : Ordering :=
  match a.integer?, b.integer? with
  | some x, some y => compare x.toInt y.toInt
  | _, _ => (a.toDouble?.getD .nan).totalCompare (b.toDouble?.getD .nan)

/-- Orders two values of one class other than documents and arrays. Values without an order of their
own go by their debugging text. -/
def compareScalars (a b : Value) : Ordering :=
  match a, b with
  | .bool x, .bool y => compare x.toNat y.toNat
  | .objectId x, .objectId y => compare x y
  | .dateTime x, .dateTime y => compare x.toInt y.toInt
  | .timestamp s i, .timestamp t j => (compare s.toNat t.toNat).then (compare i.toNat j.toNat)
  | a, b =>
    match a.text?, b.text? with
    | some x, some y => compare x y
    | _, _ =>
      if a.typeClass = .number then compareNumbers a b else compare a.debug b.debug

/-! ## All values -/

mutual

/-- Orders all values: by class, then within the class. -/
def order : Value → Value → Ordering
  | .document x, .document y => orderFields x y
  | .array x, .array y => orderItems x y
  | a, b =>
    if a.typeClass = b.typeClass then compareScalars a b
    else compare a.typeClass.rank b.typeClass.rank

/-- Orders two documents: field by field, the value before the name, then by length. -/
def orderFields : List (String × Value) → List (String × Value) → Ordering
  | [], [] => .eq
  | [], _ :: _ => .lt
  | _ :: _, [] => .gt
  | (name, value) :: rest, (name', value') :: rest' =>
    ((order value value').then (compare name name')).then (orderFields rest rest')

/-- Orders two arrays: item by item, then by length. -/
def orderItems : List Value → List Value → Ordering
  | [], [] => .eq
  | [], _ :: _ => .lt
  | _ :: _, [] => .gt
  | value :: rest, value' :: rest' => (order value value').then (orderItems rest rest')

end

/-- Orders two values of one class. -/
def compareInClass : Value → Value → Ordering
  | .document x, .document y => orderFields x y
  | .array x, .array y => orderItems x y
  | a, b => compareScalars a b

/-- Do two values compare as equal? -/
def equals (a b : Value) : Bool := order a b == .eq

end Value
end Docstore

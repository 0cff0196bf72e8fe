import Docstore.Path.Resolve
import Docstore.Value.Order

/-!
# `Docstore.Query.Filter` — conditions on documents

A `Filter` is a condition on one document. A clause about a path looks at what `resolvePresent` finds
there: the value itself and, if it is an array, each of its items are the candidates of the clause.
A missing value passes no comparison, but counts as equal to null.
-/

namespace Docstore

/-! ## Filters -/

/-- The comparisons of a value with a constant. -/
inductive Comparison where
  | equal | notEqual | greater | greaterOrEqual | less | lessOrEqual
deriving DecidableEq, Repr

/-- A condition on a document. -/
inductive Filter where
  | always
  | all (clauses : List Filter)
  | any (clauses : List Filter)
  | noneOf (clauses : List Filter)
  | negation (clause : Filter)
  /-- Something is there, or nothing. -/
  | present (path : FieldPath) (expected : Bool)
  | oneOf (path : FieldPath) (values : List Value)
  | notOneOf (path : FieldPath) (values : List Value)
  | compared (path : FieldPath) (comparison : Comparison) (value : Value)
  /-- An array of this length. -/
  | sized (path : FieldPath) (length : Nat)
deriving Inhabited, Repr

namespace Filter

/-- The most values that a set of values has. -/
def maxSet : Nat := 1000

/-! ## Clauses about one value -/

/-- The values that a clause may hold of: the value found and the items of an array. -/
def candidates : Option Value → List Value
  | none => []
  | some (.array items) => .array items :: items
  | some value => [value]

/-- Is a value found equal to a constant? -/
def equalTo (found : Option Value) (constant : Value) : Bool :=
  match found with
  | none =>
    match constant with
    | .null => true
    | _ => false
  | some _ => (candidates found).any fun value => value.equals constant

/-- Is a value found of the class of a constant, and accepted by its order against it? -/
def inRange (accept : Ordering → Bool) (found : Option Value) (constant : Value) : Bool :=
  (candidates found).any fun value =>
    value.typeClass = constant.typeClass && accept (value.compareInClass constant)

/-- Does a comparison of a value found with a constant hold? -/
def compares (comparison : Comparison) (found : Option Value) (constant : Value) : Bool :=
  match comparison with
  | .equal => equalTo found constant
  | .notEqual => !equalTo found constant
  | .greater => inRange (· == .gt) found constant
  | .greaterOrEqual => inRange (· != .lt) found constant
  | .less => inRange (· == .lt) found constant
  | .lessOrEqual => inRange (· != .gt) found constant

/-- Is a value found equal to one of a set of constants? The set ends after `maxSet` values. -/
def inSet (found : Option Value) (constants : List Value) : Bool :=
  (constants.take maxSet).any fun constant => equalTo found constant

/-- Is a value found an array of a given length? -/
def hasLength (found : Option Value) (length : Nat) : Bool :=
  match found with
  | some (.array items) => items.length == length
  | _ => false

/-! ## Documents -/

mutual

/-- Does a filter accept a document? -/
def accepts : Filter → Fields → Bool
  | always, _ => true
  | all clauses, fields => acceptsAll clauses fields
  | any clauses, fields => acceptsAny clauses fields
  | noneOf clauses, fields => !acceptsAny clauses fields
  | negation clause, fields => !accepts clause fields
  | present path expected, fields => (resolvePresent fields path).isSome == expected
  | oneOf path values, fields => inSet (resolvePresent fields path) values
  | notOneOf path values, fields => !inSet (resolvePresent fields path) values
  | compared path comparison value, fields =>
    compares comparison (resolvePresent fields path) value
  | sized path length, fields => hasLength (resolvePresent fields path) length

/-- Do all filters accept a document? -/
def acceptsAll : List Filter → Fields → Bool
  | [], _ => true
  | clause :: rest, fields => accepts clause fields && acceptsAll rest fields

/-- Does some filter accept a document? -/
def acceptsAny : List Filter → Fields → Bool
  | [], _ => false
  | clause :: rest, fields => accepts clause fields || acceptsAny rest fields

end

theorem acceptsAll_eq (clauses : List Filter) (fields : Fields) :
    acceptsAll clauses fields = clauses.all (accepts · fields) := by
  induction clauses with
  | nil => rfl
  | cons clause rest ih => simp [acceptsAll, ih]

theorem acceptsAny_eq (clauses : List Filter) (fields : Fields) :
    acceptsAny clauses fields = clauses.any (accepts · fields) := by
  induction clauses with
  | nil => rfl
  | cons clause rest ih => simp [acceptsAny, ih]

end Filter
end Docstore

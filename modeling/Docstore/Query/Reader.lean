import Docstore.Count
import Docstore.Query.Binding
import Docstore.Query.Filter

/-!
# `Docstore.Query.Reader` — reading filters

A filter is written as a document: a path with a constant asks for equality, a path with a document of
operators asks for all of them, and `$and`, `$or` and `$nor` combine filters. `Filter.ofFields` reads
it.
-/

namespace Docstore

/-! ## Operators -/

/-- The operators that combine filters. -/
inductive Connective where
  | and | or | nor
deriving DecidableEq, Repr

namespace Connective

/-- The key of a connective. -/
def key : Connective → String
  | and => "$and"
  | or => "$or"
  | nor => "$nor"

/-- The connective of a key. -/
def ofKey? (key : String) : Option Connective :=
  if key = "$and" then some and
  else if key = "$or" then some or
  else if key = "$nor" then some nor
  else none

/-- The filter that combines some filters. -/
def combine : Connective → List Filter → Filter
  | and, clauses => .all clauses
  | or, clauses => .any clauses
  | nor, clauses => .noneOf clauses

end Connective

/-- The operators that ask for a member of a set. -/
inductive Membership where
  | inside | outside
deriving DecidableEq, Repr

namespace Membership

/-- The key of an operator. -/
def key : Membership → String
  | inside => "$in"
  | outside => "$nin"

/-- The clause that asks for membership. -/
def clause (path : FieldPath) : Membership → List Value → Filter
  | inside, values => .oneOf path values
  | outside, values => .notOneOf path values

end Membership

/-- The operators on what a path names. -/
inductive FieldOperator where
  | compare (comparison : Comparison)
  | member (membership : Membership)
  | exist
  | size
  | negate
deriving DecidableEq, Repr

/-- The operator of a key. -/
def FieldOperator.ofKey? (key : String) : Option FieldOperator :=
  if key = "$eq" then some (compare .equal)
  else if key = "$ne" then some (compare .notEqual)
  else if key = "$gt" then some (compare .greater)
  else if key = "$gte" then some (compare .greaterOrEqual)
  else if key = "$lt" then some (compare .less)
  else if key = "$lte" then some (compare .lessOrEqual)
  else if key = "$in" then some (member .inside)
  else if key = "$nin" then some (member .outside)
  else if key = "$exists" then some exist
  else if key = "$size" then some size
  else if key = "$not" then some negate
  else none

/-! ## Errors -/

/-- Why a document is no filter. -/
inductive FilterError where
  | badPath (cause : PathError)
  | badConstant (cause : BindingError)
  | unknownConnective (key : String)
  | notClauses (connective : Connective)
  | noClauses (connective : Connective)
  | notClause (connective : Connective)
  | unknownOperator (key : String) (path : FieldPath)
  | notOperators
  | notSet (membership : Membership)
  | setTooLarge (membership : Membership)
  | sizeNotWhole
  | sizeNegative
deriving DecidableEq, Repr

namespace FilterError

/-- The wording of an error. -/
def message : FilterError → String
  | badPath cause => cause.message
  | badConstant cause => cause.message
  | unknownConnective key => "unknown top-level operator " ++ key
  | notClauses connective => connective.key ++ " expects an array of filters"
  | noClauses connective => connective.key ++ " needs at least one filter"
  | notClause connective => connective.key ++ " entries must be documents"
  | unknownOperator key path => "unknown operator " ++ key ++ " on " ++ path.text
  | notOperators => "$not expects an operator document"
  | notSet membership => membership.key ++ " expects an array"
  | setTooLarge membership =>
    membership.key ++ " accepts at most " ++ toString Filter.maxSet ++ " values"
  | sizeNotWhole => "$size expects a whole number"
  | sizeNegative => "$size must not be negative"

end FilterError

namespace Filter

/-! ## Operands -/

/-- Is a value taken for true? -/
def isTruthy : Value → Bool
  | .bool b => b
  | .null | .undefined => false
  | .int32 n => n != 0
  | .int64 n => n != 0
  | .double x => !x.isZero
  | _ => true

/-- A constant operand. -/
def readConstant (now : Option Instant) (value : Value) : Except FilterError Value :=
  (bind now value).mapError .badConstant

/-- A set of constants. -/
def readSet (now : Option Instant) (membership : Membership) :
    Value → Except FilterError (List Value)
  | .array items =>
    if maxSet < items.length then .error (.setTooLarge membership)
    else items.mapM (readConstant now)
  | _ => .error (.notSet membership)

/-- The length of an array. -/
def readSize (value : Value) : Except FilterError Nat :=
  match value.wholeNumber? with
  | none => .error .sizeNotWhole
  | some n =>
    match Count.ofInteger? n with
    | some length => .ok length
    | none => .error .sizeNegative

/-- Is a document one of operators? Its first key decides. -/
def areOperators (fields : Fields) : Bool :=
  match fields with
  | [] => false
  | (key, _) :: _ => Text.beginsWith '$' key

/-- One filter for some clauses that must all hold. -/
def conjunction : List Filter → Filter
  | [] => always
  | [clause] => clause
  | clauses => all clauses

/-! ## Documents -/

/-- The clauses of a document of operators. -/
def readOperators (now : Option Instant) (path : FieldPath) :
    List (String × Value) → Except FilterError (List Filter)
  | [] => .ok []
  | (key, operand) :: rest => do
    let clause ← match FieldOperator.ofKey? key with
      | some (.compare comparison) => do
        pure (compared path comparison (← readConstant now operand))
      | some (.member membership) => do
        pure (membership.clause path (← readSet now membership operand))
      | some .exist => pure (present path (isTruthy operand))
      | some .size => do pure (sized path (← readSize operand))
      | some .negate =>
        match operand with
        | .document inner =>
          if areOperators inner then do
            let clauses ← readOperators now path inner
            pure (negation (conjunction clauses))
          else throw .notOperators
        | _ => throw .notOperators
      | none => throw (.unknownOperator key path)
    pure (clause :: (← readOperators now path rest))

/-- The clause that a field of a filter asks for. -/
def readField (now : Option Instant) (path : FieldPath) (value : Value) :
    Except FilterError Filter :=
  match value with
  | .document operators =>
    if areOperators operators then do
      pure (conjunction (← readOperators now path operators))
    else do pure (compared path .equal (← readConstant now value))
  | _ => do pure (compared path .equal (← readConstant now value))

mutual

/-- The clauses of a filter. -/
def readClauses (now : Option Instant) : List (String × Value) → Except FilterError (List Filter)
  | [] => .ok []
  | (key, value) :: rest => do
    let clause ← match Connective.ofKey? key with
      | some connective =>
        match value with
        | .array [] => throw (.noClauses connective)
        | .array items => do pure (connective.combine (← readList now connective items))
        | _ => throw (.notClauses connective)
      | none =>
        if Text.beginsWith '$' key then throw (.unknownConnective key)
        else do readField now (← (FieldPath.parse key).mapError .badPath) value
    pure (clause :: (← readClauses now rest))

/-- The filters of an array. -/
def readList (now : Option Instant) (connective : Connective) :
    List Value → Except FilterError (List Filter)
  | [] => .ok []
  | .document fields :: rest => do
    let clauses ← readClauses now fields
    pure (conjunction clauses :: (← readList now connective rest))
  | _ :: _ => .error (.notClause connective)

end

/-- Reads a filter; `now` is the reference instant. -/
def ofFields (now : Option Instant) (fields : Fields) : Except FilterError Filter := do
  pure (conjunction (← readClauses now fields))

end Filter
end Docstore

import Docstore.Instant.Shift
import Docstore.Text.Quoted
import Docstore.Value.Basic

/-!
# `Docstore.Query.Binding` — constants that depend on the reference instant

A constant in a filter or an expression may be `$$NOW`, which stands for a reference instant, or an
operation `$dateAdd` or `$dateSubtract` on a constant date, which is carried out while the constant is
read. `bind` replaces both; every other value stands for itself.
-/

namespace Docstore

/-! ## Date operations -/

/-- The operations on constant dates. -/
inductive DateOperator where
  | add | subtract
deriving DecidableEq, Repr

namespace DateOperator

/-- The key of an operation. -/
def key : DateOperator → String
  | add => "$dateAdd"
  | subtract => "$dateSubtract"

/-- The operation of a key. -/
def ofKey? (key : String) : Option DateOperator :=
  if key = "$dateAdd" then some add
  else if key = "$dateSubtract" then some subtract
  else none

end DateOperator

/-! ## Errors -/

/-- Why a constant has no value. -/
inductive BindingError where
  /-- There is no reference instant. -/
  | noReference
  | unknownArgument (operator : DateOperator) (name : String)
  | startKind (operator : DateOperator)
  | startMissing (operator : DateOperator)
  | unitKind (operator : DateOperator)
  | unknownUnit (name : String)
  | amountKind (operator : DateOperator)
  | outOfRange (operator : DateOperator)
deriving DecidableEq, Repr

namespace BindingError

/-- The wording of an error. -/
def message : BindingError → String
  | noReference => "$$NOW used without a reference instant"
  | unknownArgument operator name => operator.key ++ " does not take " ++ name
  | startKind operator => operator.key ++ ".startDate must be a date or $$NOW"
  | startMissing operator => operator.key ++ " needs startDate"
  | unitKind operator => operator.key ++ ".unit must be a string"
  | unknownUnit name => "unknown date unit " ++ Text.quoted name
  | amountKind operator => operator.key ++ ".amount must be an integer"
  | outOfRange operator => operator.key ++ " result is out of range"

end BindingError

/-! ## Operations on constants -/

/-- The variable that stands for the reference instant. -/
def nowVariable : String := "$$NOW"

/-- Is this the name of an argument of a date operation? -/
def isDateArgument (name : String) : Bool :=
  name = "startDate" || name = "unit" || name = "amount"

/-- A document with one entry, a date operation on a document of arguments. -/
def dateOperation? : Value → Option (DateOperator × Fields)
  | .document [(key, .document arguments)] =>
    (DateOperator.ofKey? key).map fun operator => (operator, arguments)
  | _ => none

/-- Carries out a date operation, given what its start is bound to. The faults are looked for in the
order of the arguments, after names that are none. -/
def applyDateOperator (operator : DateOperator) (arguments : Fields)
    (start : Except BindingError (Option Value)) : Except BindingError Instant := do
  if let some name := (Entries.names arguments).find? (fun name => !isDateArgument name) then
    throw (.unknownArgument operator name)
  let date ← match ← start with
    | some (.dateTime date) => pure date
    | some _ => throw (.startKind operator)
    | none => throw (.startMissing operator)
  let unit ← match Entries.get? "unit" arguments with
    | some (.string name) =>
      match Instant.TimeUnit.ofName? name with
      | some unit => pure unit
      | none => throw (.unknownUnit name)
    | _ => throw (.unitKind operator)
  let amount ← match (Entries.get? "amount" arguments).bind Value.integer? with
    | some amount => pure amount
    | none => throw (.amountKind operator)
  if operator = .subtract ∧ amount = Int64.minValue then throw (.outOfRange operator)
  let signed := if operator = .subtract then -amount.toInt else amount.toInt
  match date.shift? unit signed with
  | some result => pure result
  | none => throw (.outOfRange operator)

mutual

/-- The value that a constant stands for. -/
def bind (now : Option Instant) : Value → Except BindingError Value
  | .string text =>
    if text = nowVariable then
      match now with
      | some instant => .ok (.dateTime instant)
      | none => .error .noReference
    else .ok (.string text)
  | .document [(key, .document arguments)] =>
    match DateOperator.ofKey? key with
    | some operator =>
      (applyDateOperator operator arguments (bindStart now arguments)).map .dateTime
    | none => .ok (.document [(key, .document arguments)])
  | value => .ok value

/-- The value that the start among the arguments of a date operation stands for. -/
def bindStart (now : Option Instant) : List (String × Value) → Except BindingError (Option Value)
  | [] => .ok none
  | (name, value) :: rest =>
    if name = "startDate" then (bind now value).map some else bindStart now rest

end

/-- The values that constants stand for. -/
def bindAll (now : Option Instant) (values : List Value) : Except BindingError (List Value) :=
  values.mapM (bind now)

end Docstore

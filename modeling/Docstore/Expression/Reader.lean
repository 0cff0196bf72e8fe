import Docstore.Expression.Basic
import Docstore.Query.Binding

/-!
# `Docstore.Expression.Reader` — reading expressions

An expression is written as a value: `"$a.b"` names a path, `"$$ROOT"` the whole document,
`{"$literal": v}` a constant that is not looked into, and a document without operators an object of
expressions. Any other value is a constant.
-/

namespace Docstore

/-- Why a value is no expression. -/
inductive ExpressionError where
  | badPath (cause : PathError)
  | badConstant (cause : BindingError)
  | unknownVariable (text : String)
  | unsupportedOperator (key : String)
  | dottedMember (name : String)
deriving DecidableEq, Repr

namespace ExpressionError

/-- The wording of an error. -/
def message : ExpressionError → String
  | badPath cause => cause.message
  | badConstant cause => cause.message
  | unknownVariable text => "unknown variable " ++ text
  | unsupportedOperator key => "unsupported expression operator " ++ key
  | dottedMember name =>
    "object expression key " ++ Text.quoted name ++ " must not contain '.'"

end ExpressionError

namespace Expression

/-- Is there a dot in a name? -/
def isDotted (name : String) : Bool := name.toList.contains '.'

/-- The constant that a value is bound to. -/
def readConstant (now : Option Instant) (value : Value) : Except ExpressionError Expression :=
  match bind now value with
  | .ok bound => .ok (literal bound)
  | .error cause => .error (.badConstant cause)

/-- Reads a reference `$a.b`; the dollar sign may be left out. -/
def readReference (text : String) : Except ExpressionError Expression :=
  match FieldPath.parseReference text with
  | .ok path => .ok (field path)
  | .error cause => .error (.badPath cause)

/-- Reads an expression that is written as a text. -/
def readText (now : Option Instant) (text : String) : Except ExpressionError Expression :=
  match text.toList with
  | '$' :: '$' :: _ =>
    if text = "$$ROOT" ∨ text = "$$CURRENT" then .ok root
    else if text = nowVariable then readConstant now (.string text)
    else .error (.unknownVariable text)
  | '$' :: _ => readReference text
  | _ => .ok (literal (.string text))

mutual

/-- Reads an expression; `now` is the reference instant. -/
def ofValue (now : Option Instant) : Value → Except ExpressionError Expression
  | .string text => readText now text
  | .document [] => .ok (object [])
  | .document ((key, value) :: rest) =>
    if key = "$literal" ∧ rest.isEmpty then .ok (literal value)
    else if (dateOperation? (.document ((key, value) :: rest))).isSome then
      readConstant now (.document ((key, value) :: rest))
    else if Text.beginsWith '$' key then .error (.unsupportedOperator key)
    else do pure (object (← ofMembers now ((key, value) :: rest)))
  | value => .ok (literal value)

/-- Reads the members of an object of expressions. -/
def ofMembers (now : Option Instant) :
    List (String × Value) → Except ExpressionError (List (String × Expression))
  | [] => .ok []
  | (name, value) :: rest => do
    if isDotted name then throw (.dottedMember name)
    let member ← ofValue now value
    pure ((name, member) :: (← ofMembers now rest))

end

end Expression
end Docstore

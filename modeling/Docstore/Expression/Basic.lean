import Docstore.Path.Resolve

/-!
# `Docstore.Expression.Basic` — values computed from a document

An `Expression` is the whole document, what a path names in it, a constant, or an object of named
expressions. `eval` computes its value, which may be missing; an object leaves missing members out.
-/

namespace Docstore

/-- A value computed from a document. -/
inductive Expression where
  | root
  | field (path : FieldPath)
  | literal (value : Value)
  | object (members : List (String × Expression))
deriving Inhabited, Repr

namespace Expression

mutual

/-- The value of an expression on a document, or none if it is missing. -/
def eval : Expression → Fields → Option Value
  | root, fields => some (.document fields)
  | field path, fields => resolve fields path
  | literal value, _ => some value
  | object members, fields => some (.document (evalMembers members [] fields))

/-- Adds the members of an object that are not missing to those before them. -/
def evalMembers : List (String × Expression) → Fields → Fields → Fields
  | [], built, _ => built
  | (name, member) :: rest, built, fields =>
    match eval member fields with
    | some value => evalMembers rest (Entries.insert name value built) fields
    | none => evalMembers rest built fields

end

end Expression
end Docstore

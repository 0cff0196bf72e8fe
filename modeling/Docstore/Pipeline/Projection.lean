import Docstore.Expression.Basic
import Docstore.Path.Edit

/-!
# `Docstore.Pipeline.Projection` — reshaping documents

A `Projection` either makes a new document of the listed fields, in the order of the list, or keeps the
document and changes the listed fields. Expressions see the document as it came in.
-/

namespace Docstore

/-- What becomes of a listed field. -/
inductive ProjectedField where
  | kept
  | removed
  | computed (expression : Expression)
deriving Repr

namespace ProjectedField

/-- Is the field left out? -/
def isRemoved : ProjectedField → Bool
  | removed => true
  | _ => false

end ProjectedField

/-- What becomes of the fields of a document. -/
structure Projection where
  /-- Do the fields that are not listed stay? -/
  keepsOthers : Bool
  fields : List (FieldPath × ProjectedField)
deriving Repr

namespace Projection

/-- Changes one listed field of a document that is kept. -/
def override (document : Fields) (out : Fields) (path : FieldPath) : ProjectedField → Fields
  | .kept => out
  | .removed => removePath out path
  | .computed expression =>
    match expression.eval document with
    | some value => setPath out path value
    | none => removePath out path

/-- Adds one listed field to a new document. -/
def collect (document : Fields) (out : Fields) (path : FieldPath) : ProjectedField → Fields
  | .kept => copyPath document out path
  | .removed => out
  | .computed expression =>
    match expression.eval document with
    | some value => setPath out path value
    | none => out

/-- Reshapes a document. -/
def apply (projection : Projection) (document : Fields) : Fields :=
  if projection.keepsOthers then
    projection.fields.foldl (fun out (path, field) => override document out path field) document
  else
    projection.fields.foldl (fun out (path, field) => collect document out path field) []

end Projection
end Docstore

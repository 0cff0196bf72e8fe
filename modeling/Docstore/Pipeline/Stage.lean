import Docstore.Pipeline.Group
import Docstore.Pipeline.Lookup
import Docstore.Pipeline.Projection
import Docstore.Pipeline.Unwind
import Docstore.Query.Filter
import Docstore.Query.SortKey
import Docstore.Text.Quoted

/-!
# `Docstore.Pipeline.Stage` — the stages of a pipeline

A `Stage` turns a sequence of documents into another one. `Stage.fault?` says what keeps a stage from
running; a stage without fault never fails.
-/

namespace Docstore

/-! ## Stages -/

/-- One step of a pipeline. -/
inductive Stage where
  | filter (condition : Filter)
  | group (spec : Group)
  | lookup (spec : Lookup)
  | unwind (spec : Unwind)
  | project (projection : Projection)
  | sort (keys : List SortKey)
  /-- The first documents; none of them if the number is not positive. -/
  | limit (count : Int)
  | skip (count : Nat)
deriving Repr

/-- The kinds of stages. -/
inductive StageKind where
  | filter | group | lookup | unwind | project | sort | limit | skip
deriving DecidableEq, Repr

/-- The name of a kind of stages. -/
def StageKind.name : StageKind → String
  | filter => "filter"
  | group => "group"
  | lookup => "lookup"
  | unwind => "unwind"
  | project => "project"
  | sort => "sort"
  | limit => "limit"
  | skip => "skip"

namespace Stage

/-- The kind of a stage. -/
def kind : Stage → StageKind
  | filter _ => .filter
  | group _ => .group
  | lookup _ => .lookup
  | unwind _ => .unwind
  | project _ => .project
  | sort _ => .sort
  | limit _ => .limit
  | skip _ => .skip

/-- The collection that a stage joins. -/
def source? : Stage → Option String
  | lookup spec => some spec.source
  | _ => none

end Stage

/-! ## Faults -/

/-- What keeps a stage from running. -/
inductive StageFault where
  | noSortKeys
  | tooManySortKeys (count : Nat)
  | outputName (name : String)
  | reservedOutput
  | duplicateOutput (name : String)
  | noFields
  | tooManyFields
  | mixedExclusion (path : FieldPath)
  | collision (earlier later : FieldPath)
  | noSource
deriving DecidableEq, Repr

/-- The most fields of a projection. -/
def maxProjectedFields : Nat := 64

namespace StageFault

/-- The wording of a fault. -/
def message : StageFault → String
  | noSortKeys => "at least one sort key is required"
  | tooManySortKeys count =>
    "at most " ++ toString maxSortKeys ++ " sort keys are allowed, got " ++ toString count
  | outputName name => "invalid output field name " ++ Text.quoted name
  | reservedOutput => "'_id' is reserved for the group key"
  | duplicateOutput name => "duplicate output field " ++ Text.quoted name
  | noFields => "at least one field is required"
  | tooManyFields => "at most " ++ toString maxProjectedFields ++ " fields are allowed"
  | mixedExclusion path => "cannot exclude " ++ path.text ++ " while including fields"
  | collision earlier later => "path collision between " ++ earlier.text ++ " and " ++ later.text
  | noSource => "'from' must name a collection"

end StageFault

/-- What is wrong with the keys of a sort. -/
def sortFault? (keys : List SortKey) : Option StageFault :=
  if keys.isEmpty then some .noSortKeys
  else if maxSortKeys < keys.length then some (.tooManySortKeys keys.length)
  else none

/-- What is wrong with a name, given the names before it. -/
def outputFault? (earlier : List String) (name : String) : Option StageFault :=
  if name.isEmpty || name.toList.contains '.' || Text.beginsWith '$' name then
    some (.outputName name)
  else if name = "_id" then some .reservedOutput
  else if earlier.contains name then some (.duplicateOutput name)
  else none

/-- What is wrong with the first faulty name, given the names before all of them. -/
def outputsFault? (earlier : List String) : List String → Option StageFault
  | [] => none
  | name :: rest => (outputFault? earlier name).or (outputsFault? (name :: earlier) rest)

/-- Is one of two paths the beginning of the other? -/
def FieldPath.collides (a b : FieldPath) : Bool :=
  a.segments.isPrefixOf b.segments || b.segments.isPrefixOf a.segments

namespace Projection

/-- What is wrong with a listed field, given the paths before it, the first of them first. -/
def fieldFault? (keepsOthers : Bool) (earlier : List FieldPath) (path : FieldPath)
    (field : ProjectedField) : Option StageFault :=
  if !keepsOthers && field.isRemoved && path.segments != ["_id"] then some (.mixedExclusion path)
  else (earlier.find? path.collides).map fun other => .collision other path

/-- What is wrong with the first faulty field, given the paths before all of them. -/
def fieldsFault? (keepsOthers : Bool) (earlier : List FieldPath) :
    List (FieldPath × ProjectedField) → Option StageFault
  | [] => none
  | (path, field) :: rest =>
    (fieldFault? keepsOthers earlier path field).or
      (fieldsFault? keepsOthers (earlier ++ [path]) rest)

/-- What is wrong with a projection. -/
def fault? (projection : Projection) : Option StageFault :=
  if projection.fields.isEmpty then some .noFields
  else if maxProjectedFields < projection.fields.length then some .tooManyFields
  else fieldsFault? projection.keepsOthers [] projection.fields

end Projection

/-- What keeps a stage from running. -/
def Stage.fault? : Stage → Option StageFault
  | sort keys => sortFault? keys
  | group spec => outputsFault? [] (Entries.names spec.fields)
  | project projection => projection.fault?
  | lookup spec => if spec.source.isEmpty then some .noSource else none
  | _ => none

end Docstore

import Docstore.Count
import Docstore.Expression.Reader
import Docstore.Pipeline.Basic
import Docstore.Query.Reader

/-!
# `Docstore.Pipeline.Reader` — reading pipelines

A stage is written as a document with one key, which names the kind of the stage.
`Pipeline.ofDocuments` first reads every stage and then looks for faults in what it read; either way
the error names the place of a stage.
-/

namespace Docstore

/-! ## Errors -/

/-- Why the body of a stage cannot be read. -/
inductive BodyError where
  | badPath (cause : PathError)
  | badFilter (cause : FilterError)
  | badExpression (cause : ExpressionError)
  | notDocument (key : String)
  | notWhole (key : String)
  | notText (key : String)
  | missing (key : String)
  | negativeSkip
  | noGroupKey
  | accumulatorKind (field : String)
  | accumulatorOperators (field : String)
  | countOperand
  | unknownAccumulator (key field : String)
  | unknownOption (key : String)
  | unwindPath (text : String)
  | preserveKind
  | unwindKind
  | sortDirection (name : String)
deriving DecidableEq, Repr

/-- The wording of an error. -/
def BodyError.message : BodyError → String
  | badPath cause => cause.message
  | badFilter cause => cause.message
  | badExpression cause => cause.message
  | notDocument key => key ++ " expects a document"
  | notWhole key => key ++ " expects a whole number"
  | notText key => "'" ++ key ++ "' must be a string"
  | missing key => "missing '" ++ key ++ "'"
  | negativeSkip => "$skip must not be negative"
  | noGroupKey => "missing '_id' group key"
  | accumulatorKind field => "accumulator for '" ++ field ++ "' must be a document"
  | accumulatorOperators field =>
    "accumulator for '" ++ field ++ "' must have exactly one operator"
  | countOperand => "$count takes an empty document"
  | unknownAccumulator key field => "unknown accumulator " ++ key ++ " for '" ++ field ++ "'"
  | unknownOption key => "unsupported option '" ++ key ++ "'"
  | unwindPath text => "unwind path " ++ Text.quoted text ++ " must start with '$'"
  | preserveKind => "'preserveNullAndEmptyArrays' must be a boolean"
  | unwindKind => "$unwind expects a path string or a document"
  | sortDirection name => "sort direction for '" ++ name ++ "' must be 1 or -1"

/-- Why a document is no stage that runs. -/
inductive StageError where
  | keyCount
  | unknownKind (key : String)
  | unreadable (kind : StageKind) (cause : BodyError)
  | faulty (kind : StageKind) (fault : StageFault)
deriving DecidableEq, Repr

namespace StageError

/-- What the stage is called in a message. -/
def stageName : StageError → String
  | keyCount => "stage"
  | unknownKind key => key
  | unreadable kind _ => kind.name
  | faulty kind _ => kind.name

/-- The wording of the reason. -/
def reason : StageError → String
  | keyCount => "a stage document must have exactly one key"
  | unknownKind _ => "unknown stage"
  | unreadable _ cause => cause.message
  | faulty _ fault => fault.message

end StageError

/-- The place of a stage in a list and what is wrong with it. -/
structure InvalidStage where
  index : Nat
  error : StageError
deriving DecidableEq, Repr

/-- The wording of an error. -/
def InvalidStage.message (invalid : InvalidStage) : String :=
  "invalid " ++ invalid.error.stageName ++ " stage at index " ++ toString invalid.index ++ ": " ++
    invalid.error.reason

/-- The error of a stage that was read, but does not run. -/
def FaultyStage.toInvalid (faulty : FaultyStage) : InvalidStage :=
  ⟨faulty.index, .faulty faulty.kind faulty.fault⟩

/-! ## Parts of a body -/

/-- The fields of a body that is a document. -/
def bodyFields (key : String) (body : Value) : Except BodyError Fields :=
  match body.fields? with
  | some fields => .ok fields
  | none => .error (.notDocument key)

/-- The number of a body that is a whole number. -/
def bodyInteger (key : String) (body : Value) : Except BodyError Int :=
  match body.wholeNumber? with
  | some n => .ok n
  | none => .error (.notWhole key)

/-- The text under a key of a body. -/
def bodyText (fields : Fields) (key : String) : Except BodyError String :=
  match Entries.get? key fields with
  | some (.string text) => .ok text
  | some _ => .error (.notText key)
  | none => .error (.missing key)

/-- Reads a path. -/
def bodyPath (text : String) : Except BodyError FieldPath :=
  (FieldPath.parse text).mapError .badPath

/-- Reads an expression. -/
def bodyExpression (now : Option Instant) (value : Value) : Except BodyError Expression :=
  (Expression.ofValue now value).mapError .badExpression

/-! ## Stages -/

namespace Accumulator

/-- Reads the accumulator of a field. -/
def ofValue (now : Option Instant) (field : String) (value : Value) :
    Except BodyError Accumulator :=
  match value with
  | .document [(key, operand)] =>
    if key = "$sum" then (bodyExpression now operand).map sum
    else if key = "$first" then (bodyExpression now operand).map first
    else if key = "$count" then
      match operand with
      | .document [] => .ok count
      | _ => .error .countOperand
    else .error (.unknownAccumulator key field)
  | .document _ => .error (.accumulatorOperators field)
  | _ => .error (.accumulatorKind field)

end Accumulator

/-- Reads the body of a group. -/
def Group.ofFields (now : Option Instant) (fields : Fields) : Except BodyError Group := do
  let key ← match Entries.get? "_id" fields with
    | some key => bodyExpression now key
    | none => throw .noGroupKey
  let accumulators ← (fields.filter fun (name, _) => name ≠ "_id").mapM fun (name, value) => do
    pure (name, ← Accumulator.ofValue now name value)
  pure ⟨key, accumulators⟩

/-- Is this the name of an option of a join? -/
def isLookupOption (name : String) : Bool :=
  name = "from" || name = "localField" || name = "foreignField" || name = "as"

/-- Reads the body of a join. -/
def Lookup.ofFields (fields : Fields) : Except BodyError Lookup := do
  if let some name := (Entries.names fields).find? fun name => !isLookupOption name then
    throw (.unknownOption name)
  let source ← bodyText fields "from"
  let localText ← bodyText fields "localField"
  let foreignText ← bodyText fields "foreignField"
  let targetText ← bodyText fields "as"
  pure ⟨source, ← bodyPath localText, ← bodyPath foreignText, ← bodyPath targetText⟩

namespace Unwind

/-- Reads the path of an array, with its dollar sign. -/
def readPath (text : String) : Except BodyError FieldPath :=
  match text.toList with
  | '$' :: rest => bodyPath (String.ofList rest)
  | _ => .error (.unwindPath text)

/-- Reads the body of an expansion. -/
def ofValue (body : Value) : Except BodyError Unwind :=
  match body with
  | .string text => (readPath text).map fun path => ⟨path, false, none⟩
  | .document fields => do
    let path ← readPath (← bodyText fields "path")
    let keepsEmpty ← match Entries.get? "preserveNullAndEmptyArrays" fields with
      | none => pure false
      | some (.bool flag) => pure flag
      | some _ => throw .preserveKind
    let indexPath ←
      if Entries.has "includeArrayIndex" fields then do
        pure (some (← bodyPath (← bodyText fields "includeArrayIndex")))
      else pure none
    pure ⟨path, keepsEmpty, indexPath⟩
  | _ => .error .unwindKind

end Unwind

namespace Projection

/-- Reads a field of a projection: true and non-zero numbers keep it, false and zero remove it. -/
def readField (now : Option Instant) (value : Value) : Except BodyError ProjectedField :=
  match value with
  | .bool flag => .ok (if flag then .kept else .removed)
  | .int32 n => .ok (if n = 0 then .removed else .kept)
  | .int64 n => .ok (if n = 0 then .removed else .kept)
  | .double x => .ok (if x.isZero then .removed else .kept)
  | value => (bodyExpression now value).map .computed

/-- Reads the body of a projection that adds fields. -/
def ofAddedFields (now : Option Instant) (fields : Fields) : Except BodyError Projection := do
  let computed ← fields.mapM fun (name, value) => do
    let path ← bodyPath name
    pure (path, ProjectedField.computed (← bodyExpression now value))
  pure ⟨true, computed⟩

/-- Reads the body of a projection. One that only removes fields keeps the others. -/
def ofFields (now : Option Instant) (fields : Fields) : Except BodyError Projection := do
  let projected ← fields.mapM fun (name, value) => do
    let path ← bodyPath name
    pure (path, ← readField now value)
  pure ⟨projected.all fun (_, field) => field.isRemoved, projected⟩

end Projection

/-- Reads one key of a sort. -/
def SortKey.ofEntry (name : String) (value : Value) : Except BodyError SortKey := do
  let direction ← match value.wholeNumber? with
    | some 1 => pure Direction.ascending
    | some (-1) => pure Direction.descending
    | _ => throw (.sortDirection name)
  pure ⟨← bodyPath name, direction⟩

/-- Reads the body of a sort. -/
def readSortKeys (fields : Fields) : Except BodyError (List SortKey) :=
  fields.mapM fun (name, value) => SortKey.ofEntry name value

/-- The kind of the stages of a key. -/
def StageKind.ofKey? (key : String) : Option StageKind :=
  if key = "$match" then some filter
  else if key = "$group" then some group
  else if key = "$lookup" then some lookup
  else if key = "$unwind" then some unwind
  else if key = "$project" ∨ key = "$addFields" ∨ key = "$set" then some project
  else if key = "$sort" then some sort
  else if key = "$limit" then some limit
  else if key = "$skip" then some skip
  else none

namespace Stage

/-- Reads the body of a stage of a kind, under the key that names it. -/
def ofBody (now : Option Instant) (kind : StageKind) (key : String) (body : Value) :
    Except BodyError Stage :=
  match kind with
  | .filter => do
    let fields ← bodyFields key body
    (Filter.ofFields now fields).map filter |>.mapError .badFilter
  | .group => do pure (group (← Group.ofFields now (← bodyFields key body)))
  | .lookup => do pure (lookup (← Lookup.ofFields (← bodyFields key body)))
  | .unwind => (Unwind.ofValue body).map unwind
  | .project => do
    let fields ← bodyFields key body
    if key = "$project" then pure (project (← Projection.ofFields now fields))
    else pure (project (← Projection.ofAddedFields now fields))
  | .sort => do pure (sort (← readSortKeys (← bodyFields key body)))
  | .limit => (bodyInteger key body).map limit
  | .skip => do
    match Count.ofInteger? (← bodyInteger key body) with
    | some count => pure (skip count)
    | none => throw .negativeSkip

/-- Reads a stage; `now` is the reference instant. -/
def ofFields (now : Option Instant) (fields : Fields) : Except StageError Stage :=
  match fields with
  | [(key, body)] =>
    match StageKind.ofKey? key with
    | some kind => (ofBody now kind key body).mapError (.unreadable kind)
    | none => .error (.unknownKind key)
  | _ => .error .keyCount

/-- Reads stages, counting from `index`. -/
def readAll (now : Option Instant) (index : Nat) : List Fields → Except InvalidStage (List Stage)
  | [] => .ok []
  | fields :: rest => do
    let stage ← (ofFields now fields).mapError (InvalidStage.mk index)
    pure (stage :: (← readAll now (index + 1) rest))

end Stage

/-- Reads a pipeline; `now` is the reference instant. -/
def Pipeline.ofDocuments (now : Option Instant) (documents : List Fields) :
    Except InvalidStage Pipeline := do
  let stages ← Stage.readAll now 0 documents
  (ofStages stages).mapError FaultyStage.toInvalid

end Docstore

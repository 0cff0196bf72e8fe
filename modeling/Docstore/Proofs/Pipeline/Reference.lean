import Docstore.Pipeline.Reader
import Docstore.Proofs.Except

/-!
# `Docstore.Proofs.Pipeline.Reference` — what reading makes of the reference instant

The reference instant is handed down through every reader of a pipeline, to the constants in filters,
accumulators and projections and to the starts of date operations. Only the reader of `$$NOW` looks at it, and
without an instant that is an error. So each reader comes to the same with an instant as without, unless it
fails without one for lack of it (`SameUnless`).

## Contents
- **Constants.** `LacksReference`, `sameUnless_bind`.
- **Filters and expressions.** One lemma for each reader; inductions on operators, clauses and values.
- **Stages and pipelines.** The bodies of stages, and `reference_enters_through_now`.
-/

namespace Docstore

variable {now : Instant}

/-! ## Constants -/

/-- An error is worded as the lack of a reference instant is. -/
def LacksReference {ε : Type} (wording : ε → String) (cause : ε) : Prop :=
  wording cause = BindingError.noReference.message

/-- A date operator gives the same for starts that are the same unless the first lacks the instant. -/
theorem sameUnless_applyDateOperator (operator : DateOperator) (arguments : Fields)
    {start start' : Except BindingError (Option Value)}
    (h : SameUnless (LacksReference BindingError.message) start start') :
    SameUnless (LacksReference BindingError.message) (applyDateOperator operator arguments start)
      (applyDateOperator operator arguments start') := by
  unfold applyDateOperator
  cases (Entries.names arguments).find? fun name => !isDateArgument name with
  | some name => exact .refl _
  | none => exact h.bind fun value => .refl _

/-- Starts nest: a date operation starts from a constant, which may be a date operation. -/
theorem sameUnless_bind_and_bindStart (now : Instant) :
    (∀ value, SameUnless (LacksReference BindingError.message) (bind none value) (bind (some now) value)) ∧
    ∀ arguments, SameUnless (LacksReference BindingError.message)
      (bindStart none arguments) (bindStart (some now) arguments) := by
  refine bind.mutual_induct none _ _ nofun ?unbound ?text ?operation ?document ?other ?nil ?start ?rest
  case unbound =>
    -- the one place where an instant is looked at
    intro _
    exact .inr ⟨.noReference, by simp only [bind, if_pos], rfl⟩
  case text =>
    intro text htext
    simp only [bind, if_neg htext]
    exact .refl _
  case operation =>
    intro key arguments operator hkey ih
    simp only [bind, hkey]
    exact (sameUnless_applyDateOperator operator arguments ih).map Value.dateTime
  case document =>
    intro key arguments hkey
    simp only [bind, hkey]
    exact .refl _
  case other =>
    intro value htext hdocument
    rw [bind, bind]
    · exact .refl _
    all_goals assumption
  case nil => exact .refl _
  case start =>
    intro value rest ih
    simp only [bindStart, if_pos]
    exact ih.map some
  case rest =>
    intro name value rest hname ih
    simp only [bindStart, if_neg hname]
    exact ih

/-- Binding a value gives the same with an instant, unless it fails for lack of one. -/
theorem sameUnless_bind (now : Instant) (value : Value) :
    SameUnless (LacksReference BindingError.message) (bind none value) (bind (some now) value) :=
  (sameUnless_bind_and_bindStart now).1 value

/-! ## Filters and expressions -/

namespace Filter

theorem sameUnless_readConstant (now : Instant) (value : Value) :
    SameUnless (LacksReference FilterError.message) (readConstant none value) (readConstant (some now) value) :=
  (sameUnless_bind now value).mapError fun _ h => h

/-- The constants of a set are read the same with an instant, unless one of them lacks it. -/
theorem sameUnless_readSet (now : Instant) (membership : Membership) (operand : Value) :
    SameUnless (LacksReference FilterError.message)
      (readSet none membership operand) (readSet (some now) membership operand) := by
  unfold readSet
  split
  · split
    · exact .refl _
    · exact SameUnless.mapM (sameUnless_readConstant now) _
  · exact .refl _

/-- Operators nest: one of them negates a document of operators. -/
theorem sameUnless_readOperators (now : Instant) (path : FieldPath) : ∀ operators : Fields,
    SameUnless (LacksReference FilterError.message)
      (readOperators none path operators) (readOperators (some now) path operators)
  | [] => by
      rw [readOperators, readOperators]
      exact .refl _
  | (key, operand) :: rest => by
      have hrest := sameUnless_readOperators now path rest
      unfold readOperators
      cases FieldOperator.ofKey? key with
      | none => exact .refl _
      | some operator =>
          -- constants stand in comparisons, in sets and in the operators below a negation
          cases operator with
          | compare comparison =>
              exact (sameUnless_readConstant now operand).bind fun _ => .cons (.refl _) hrest
          | member membership =>
              exact (sameUnless_readSet now membership operand).bind fun _ => .cons (.refl _) hrest
          | exist => exact .cons (.refl _) hrest
          | size => exact .bind (.refl _) fun _ => .cons (.refl _) hrest
          | negate =>
              cases operand with
              | document inner =>
                  dsimp only
                  split
                  · exact (sameUnless_readOperators now path inner).bind fun _ => .cons (.refl _) hrest
                  · exact .refl _
              | _ => exact .refl _

theorem sameUnless_readField (now : Instant) (path : FieldPath) (value : Value) :
    SameUnless (LacksReference FilterError.message)
      (readField none path value) (readField (some now) path value) := by
  unfold readField
  split
  · split
    · exact (sameUnless_readOperators now path _).bind fun _ => .refl _
    · exact (sameUnless_readConstant now _).bind fun _ => .refl _
  · exact (sameUnless_readConstant now _).bind fun _ => .refl _

mutual

/-- Clauses nest: a connective stands in front of a list of filters. -/
theorem sameUnless_readClauses (now : Instant) : ∀ fields : Fields,
    SameUnless (LacksReference FilterError.message) (readClauses none fields) (readClauses (some now) fields)
  | [] => by
      rw [readClauses, readClauses]
      exact .refl _
  | (key, value) :: rest => by
      have hrest := sameUnless_readClauses now rest
      unfold readClauses
      cases Connective.ofKey? key with
      | none =>
          dsimp only
          split
          · exact .refl _
          · exact .bind (.refl _) fun path => .cons (sameUnless_readField now path value) hrest
      | some connective =>
          cases value with
          | array items =>
              cases items with
              | nil => exact .refl _
              | cons first others =>
                  exact (sameUnless_readList now connective (first :: others)).bind fun _ =>
                    .cons (.refl _) hrest
          | _ => exact .refl _

/-- The filters under a connective are read the same with an instant, unless one of them lacks it. -/
theorem sameUnless_readList (now : Instant) (connective : Connective) : ∀ items : List Value,
    SameUnless (LacksReference FilterError.message)
      (readList none connective items) (readList (some now) connective items)
  | [] => by
      rw [readList, readList]
      exact .refl _
  | item :: rest => by
      have hrest := sameUnless_readList now connective rest
      cases item with
      | document fields =>
          rw [readList, readList]
          exact (sameUnless_readClauses now fields).bind fun _ => hrest.bind fun _ => .refl _
      | _ =>
          simp only [readList]
          exact .refl _

end

/-- **Filters** are read the same with an instant, unless they fail for lack of one. -/
theorem sameUnless_ofFields (now : Instant) (fields : Fields) :
    SameUnless (LacksReference FilterError.message) (ofFields none fields) (ofFields (some now) fields) :=
  (sameUnless_readClauses now fields).bind fun _ => .refl _

end Filter

namespace Expression

theorem sameUnless_readConstant (now : Instant) (value : Value) :
    SameUnless (LacksReference ExpressionError.message)
      (readConstant none value) (readConstant (some now) value) := by
  unfold readConstant
  rcases sameUnless_bind now value with hsame | ⟨cause, hcause, hlacks⟩
  · rw [hsame]
    exact .refl _
  · rw [hcause]
    exact .inr ⟨_, rfl, hlacks⟩

theorem sameUnless_readText (now : Instant) (text : String) :
    SameUnless (LacksReference ExpressionError.message) (readText none text) (readText (some now) text) := by
  unfold readText
  split
  · split
    · exact .refl _
    · split
      · exact sameUnless_readConstant now (.string text)
      · exact .refl _
  · exact .refl _
  · exact .refl _

mutual

/-- Expressions nest: an object has expressions for members. -/
theorem sameUnless_ofValue (now : Instant) (value : Value) :
    SameUnless (LacksReference ExpressionError.message) (ofValue none value) (ofValue (some now) value) := by
  cases value with
  | string text =>
      rw [ofValue, ofValue]
      exact sameUnless_readText now text
  | document fields =>
      cases fields with
      | nil =>
          rw [ofValue, ofValue]
          exact .refl _
      | cons entry rest =>
          rw [ofValue, ofValue]
          split
          · exact .refl _
          · split
            · exact sameUnless_readConstant now (.document (entry :: rest))
            · split
              · exact .refl _
              · exact (sameUnless_ofMembers now (entry :: rest)).bind fun _ => .refl _
  | _ =>
      simp only [ofValue]
      exact .refl _

/-- The members of an object are read the same with an instant, unless one of them lacks it. -/
theorem sameUnless_ofMembers (now : Instant) : ∀ fields : Fields,
    SameUnless (LacksReference ExpressionError.message) (ofMembers none fields) (ofMembers (some now) fields)
  | [] => by
      rw [ofMembers, ofMembers]
      exact .refl _
  | (name, value) :: rest => by
      unfold ofMembers
      split
      · exact .refl _
      · exact (sameUnless_ofValue now value).bind fun _ =>
          (sameUnless_ofMembers now rest).bind fun _ => .refl _

end

end Expression

/-! ## Stages and pipelines -/

theorem sameUnless_bodyExpression (now : Instant) (value : Value) :
    SameUnless (LacksReference BodyError.message)
      (bodyExpression none value) (bodyExpression (some now) value) :=
  (Expression.sameUnless_ofValue now value).mapError fun _ h => h

theorem Accumulator.sameUnless_ofValue (now : Instant) (field : String) (value : Value) :
    SameUnless (LacksReference BodyError.message)
      (ofValue none field value) (ofValue (some now) field value) := by
  unfold ofValue
  split
  · split
    · exact (sameUnless_bodyExpression now _).map sum
    · split
      · exact (sameUnless_bodyExpression now _).map first
      · exact .refl _
  · exact .refl _
  · exact .refl _

/-- The body of a group is read the same with an instant, unless its key or an accumulator lacks one. -/
theorem Group.sameUnless_ofFields (now : Instant) (fields : Fields) :
    SameUnless (LacksReference BodyError.message) (ofFields none fields) (ofFields (some now) fields) := by
  have haccumulator : ∀ entry : String × Value, SameUnless (LacksReference BodyError.message)
      (do pure (entry.1, ← Accumulator.ofValue none entry.1 entry.2))
      (do pure (entry.1, ← Accumulator.ofValue (some now) entry.1 entry.2)) :=
    fun entry => (Accumulator.sameUnless_ofValue now entry.1 entry.2).bind fun _ => .refl _
  unfold ofFields
  split
  next key _ =>
    exact (sameUnless_bodyExpression now key).bind fun _ =>
      (SameUnless.mapM haccumulator _).bind fun _ => .refl _
  next => exact .refl _

namespace Projection

theorem sameUnless_readField (now : Instant) (value : Value) :
    SameUnless (LacksReference BodyError.message) (readField none value) (readField (some now) value) := by
  unfold readField
  split
  iterate 4 exact .refl _
  exact (sameUnless_bodyExpression now _).map ProjectedField.computed

theorem sameUnless_ofAddedFields (now : Instant) (fields : Fields) :
    SameUnless (LacksReference BodyError.message)
      (ofAddedFields none fields) (ofAddedFields (some now) fields) :=
  (SameUnless.mapM (fun (_, value) => .bind (.refl _) fun _ =>
    (sameUnless_bodyExpression now value).bind fun _ => .refl _) fields).bind fun _ => .refl _

theorem sameUnless_ofFields (now : Instant) (fields : Fields) :
    SameUnless (LacksReference BodyError.message) (ofFields none fields) (ofFields (some now) fields) :=
  (SameUnless.mapM (fun (_, value) => .bind (.refl _) fun _ =>
    (sameUnless_readField now value).bind fun _ => .refl _) fields).bind fun _ => .refl _

end Projection

namespace Stage

/-- The body of a stage of any kind is read the same with an instant, unless it lacks one. -/
theorem sameUnless_ofBody (now : Instant) (kind : StageKind) (key : String) (body : Value) :
    SameUnless (LacksReference BodyError.message)
      (ofBody none kind key body) (ofBody (some now) kind key body) := by
  -- constants stand in filters, groups and projections alone
  cases kind with
  | filter =>
      exact .bind (.refl _) fun fields =>
        ((Filter.sameUnless_ofFields now fields).map filter).mapError fun _ h => h
  | group => exact .bind (.refl _) fun fields => (Group.sameUnless_ofFields now fields).bind fun _ => .refl _
  | project =>
      refine .bind (.refl _) fun fields => ?_
      split
      · exact (Projection.sameUnless_ofFields now fields).bind fun _ => .refl _
      · exact (Projection.sameUnless_ofAddedFields now fields).bind fun _ => .refl _
  | lookup | unwind | sort | limit | skip => exact .refl _

/-- **A stage** is read the same with an instant, unless it fails for lack of one. -/
theorem sameUnless_ofFields (now : Instant) (fields : Fields) :
    SameUnless (LacksReference StageError.reason) (ofFields none fields) (ofFields (some now) fields) := by
  unfold ofFields
  split
  · split
    next kind _ => exact (sameUnless_ofBody now kind _ _).mapError fun _ h => h
    next => exact .refl _
  · exact .refl _

theorem sameUnless_readAll (now : Instant) (index : Nat) (documents : List Fields) :
    SameUnless (LacksReference fun invalid : InvalidStage => invalid.error.reason)
      (readAll none index documents) (readAll (some now) index documents) := by
  induction documents generalizing index with
  | nil => exact .refl _
  | cons fields rest ih =>
      exact SameUnless.cons ((sameUnless_ofFields now fields).mapError fun _ h => h) (ih (index + 1))

end Stage

namespace Pipeline

/-- **Pipelines** are read the same with an instant, unless a stage fails for lack of one. -/
theorem sameUnless_ofDocuments (now : Instant) (documents : List Fields) :
    SameUnless (LacksReference fun invalid : InvalidStage => invalid.error.reason)
      (ofDocuments none documents) (ofDocuments (some now) documents) :=
  (Stage.sameUnless_readAll now 0 documents).bind fun _ => .refl _

/-- **The reference instant enters only through `$$NOW`.** A list of stage documents that is accepted without a
reference instant is accepted with every instant, as the same pipeline. One that is rejected is rejected with
every instant for the same reason at the same place, unless the reason is that an instant is lacking. -/
theorem reference_enters_through_now (documents : List Fields) (now : Instant) :
    (∀ pipeline, ofDocuments none documents = .ok pipeline →
      ofDocuments (some now) documents = .ok pipeline) ∧
    (∀ invalid, ofDocuments none documents = .error invalid →
      invalid.error.reason ≠ BindingError.noReference.message →
      ofDocuments (some now) documents = .error invalid) := by
  have hsame := sameUnless_ofDocuments now documents
  refine ⟨fun pipeline hok => hsame.eq_ok hok, fun invalid herror hreason => ?_⟩
  rcases hsame with hsame | ⟨cause, hcause, hlacks⟩
  · rw [← hsame, herror]
  · rw [herror] at hcause
    obtain rfl := Except.error.inj hcause
    exact absurd hlacks hreason

/-- A filter, a date operation on a constant date and a group with `$$NOW` as a literal are read as the same
pipeline under every instant. -/
theorem reference_enters_through_now_dates :
    let documents : List Fields := [
      [("$match", .document [("kind", .string "order")])],
      [("$addFields", .document [("due", .document [("$dateAdd", .document [("startDate", .dateTime ⟨0⟩),
        ("unit", .string "day"), ("amount", .int32 1)])])])],
      [("$group", .document [("_id", .string "$due"),
        ("text", .document [("$first", .document [("$literal", .string "$$NOW")])])])]]
    ∃ pipeline, ofDocuments none documents = .ok pipeline ∧
      ∀ now, ofDocuments (some now) documents = .ok pipeline := by
  intro documents
  have haccepted : (ofDocuments none documents).toBool = true := by decide +kernel
  cases hok : ofDocuments none documents with
  | error invalid =>
      rw [hok] at haccepted
      exact nomatch haccepted
  | ok pipeline =>
      exact ⟨pipeline, rfl, fun now => (reference_enters_through_now documents now).1 pipeline hok⟩

end Pipeline
end Docstore

import Docstore.Proofs.Except
import Docstore.Proofs.Pipeline.JoinFilter
import Docstore.Query.Reader

/-!
# `Docstore.Proofs.Query.Meaning` — what a written filter means

Reading a filter makes a tree of clauses, in which a single clause stands alone and several stand in a
conjunction, and the tree accepts documents. `EntryHolds` gives the written filter a meaning of its own, by
recursion on what is written and without any tree; it binds each constant where it stands and knows no
limit on sets. Whenever a filter can be read, the tree accepts the documents of which every entry holds.

## Contents
- **Values found.** `Candidate`, `EqualTo`, `InRange` and the tests of clauses that decide them.
- **Written operators.** `OperatorHolds`, `OperatorsHold`.
- **Written filters.** `EntryHolds`, `BodyHolds`, `EveryHolds`, `SomeHolds`, with the quantifiers they stand
  for.
- **Reading.** What the operands, operator documents and bodies that can be read are, and
  `accepts_iff_entries_hold`.
-/

namespace Docstore

/-! ## Values found -/

/-- A value that an operator may hold of: what was found, or an item of an array that was found. -/
def Candidate (found : Option Value) (value : Value) : Prop :=
  found = some value ∨ ∃ items, found = some (.array items) ∧ value ∈ items

/-- Something found is equal to a constant. Where nothing is found, null is. -/
def EqualTo (found : Option Value) (constant : Value) : Prop :=
  (found = none ∧ constant = .null) ∨ ∃ value, Candidate found value ∧ value.order constant = .eq

/-- Something found is of the class of a constant and stands in one of some orders to it. -/
def InRange (orders : List Ordering) (found : Option Value) (constant : Value) : Prop :=
  ∃ value, Candidate found value ∧ value.typeClass = constant.typeClass ∧
    value.compareInClass constant ∈ orders

namespace Filter

variable {found : Option Value} {constant : Value}

theorem mem_candidates_iff {value : Value} : value ∈ candidates found ↔ Candidate found value := by
  unfold Candidate
  cases found with
  | none => simp [candidates]
  | some inner =>
      cases inner with
      | array items => simp [candidates, eq_comm]
      | _ => simp [candidates, eq_comm]

theorem equalTo_iff : equalTo found constant = true ↔ EqualTo found constant := by
  unfold EqualTo
  cases found with
  | none =>
      rw [equalTo_none_iff]
      simp [Candidate]
  | some inner =>
      show ((candidates (some inner)).any fun value => value.equals constant) = true ↔ _
      simp [mem_candidates_iff, Value.equals]

/-- The test for a range tells whether something found stands in one of its orders to the constant. -/
theorem inRange_iff {accept : Ordering → Bool} {orders : List Ordering}
    (h : ∀ order, accept order = true ↔ order ∈ orders) :
    inRange accept found constant = true ↔ InRange orders found constant := by
  simp [inRange, InRange, mem_candidates_iff, h]

theorem hasLength_iff {length : Nat} :
    hasLength found length = true ↔ ∃ items, found = some (.array items) ∧ items.length = length := by
  cases found with
  | none => simp [hasLength]
  | some inner => cases inner <;> simp [hasLength]

/-- A set that is not too large is looked through to its end. -/
theorem inSet_iff {constants : List Value} (h : constants.length ≤ maxSet) :
    inSet found constants = true ↔ ∃ constant ∈ constants, EqualTo found constant := by
  simp [inSet, List.take_of_length_le h, equalTo_iff]

end Filter

/-! ## Written operators -/

/-- A constant, as bound to the reference instant, has a property. -/
def Bound (now : Option Instant) (constant : Value) (property : Value → Prop) : Prop :=
  ∃ value, bind now constant = .ok value ∧ property value

/-- Something found is equal to a constant as bound. -/
def Equals (now : Option Instant) (found : Option Value) (constant : Value) : Prop :=
  Bound now constant (EqualTo found)

/-- Something found is equal to one of the listed constants. -/
def OneOf (now : Option Instant) (found : Option Value) (listed : Value) : Prop :=
  ∃ items, listed = .array items ∧ ∃ item ∈ items, Equals now found item

mutual

/-- An operator holds of what was found. -/
def OperatorHolds (now : Option Instant) (found : Option Value) (key : String) (operand : Value) : Prop :=
  match key, operand with
  | "$eq", constant => Equals now found constant
  | "$ne", constant => ¬Equals now found constant
  | "$gt", constant => Bound now constant (InRange [.gt] found)
  | "$gte", constant => Bound now constant (InRange [.eq, .gt] found)
  | "$lt", constant => Bound now constant (InRange [.lt] found)
  | "$lte", constant => Bound now constant (InRange [.lt, .eq] found)
  | "$in", listed => OneOf now found listed
  | "$nin", listed => ¬OneOf now found listed
  | "$exists", expected => (∃ value, found = some value) ↔ Filter.isTruthy expected = true
  | "$size", length =>
    ∃ items, found = some (.array items) ∧ length.wholeNumber? = some (items.length : Int)
  | "$not", .document operators => ¬OperatorsHold now found operators
  | _, _ => False

/-- All operators of a document hold of what was found. -/
def OperatorsHold (now : Option Instant) (found : Option Value) : List (String × Value) → Prop
  | [] => True
  | (key, operand) :: rest => OperatorHolds now found key operand ∧ OperatorsHold now found rest

end

/-! ## Written filters -/

/-- What is written for a field holds of what was found: operators, or else a constant. -/
def WrittenHolds (now : Option Instant) (found : Option Value) : Value → Prop
  | .document fields =>
    if Filter.areOperators fields then OperatorsHold now found fields
    else Equals now found (.document fields)
  | constant => Equals now found constant

mutual

/-- An entry of a filter holds of a document. -/
def EntryHolds (now : Option Instant) (document : Fields) (key : String) (value : Value) : Prop :=
  match key, value with
  | "$and", .array bodies => EveryHolds now document bodies
  | "$or", .array bodies => SomeHolds now document bodies
  | "$nor", .array bodies => ¬SomeHolds now document bodies
  | field, written =>
    ∃ path, FieldPath.parse field = .ok path ∧ WrittenHolds now (resolvePresent document path) written

/-- All entries of a filter hold of a document. -/
def BodyHolds (now : Option Instant) (document : Fields) : List (String × Value) → Prop
  | [] => True
  | (key, value) :: rest => EntryHolds now document key value ∧ BodyHolds now document rest

/-- All of some filters hold of a document. -/
def EveryHolds (now : Option Instant) (document : Fields) : List Value → Prop
  | [] => True
  | .document body :: rest => BodyHolds now document body ∧ EveryHolds now document rest
  | _ :: _ => False

/-- At least one of some filters holds of a document. -/
def SomeHolds (now : Option Instant) (document : Fields) : List Value → Prop
  | [] => False
  | .document body :: rest => BodyHolds now document body ∨ SomeHolds now document rest
  | _ :: rest => SomeHolds now document rest

end

section Quantifiers

variable {now : Option Instant} {found : Option Value} {document : Fields}

/-- The operators of a document hold if each of them does. -/
theorem operatorsHold_iff {operators : Fields} : OperatorsHold now found operators ↔
    ∀ entry ∈ operators, OperatorHolds now found entry.1 entry.2 := by
  induction operators with
  | nil => simp [OperatorsHold]
  | cons entry rest ih => rw [OperatorsHold, ih, List.forall_mem_cons]

theorem bodyHolds_iff {body : Fields} : BodyHolds now document body ↔
    ∀ entry ∈ body, EntryHolds now document entry.1 entry.2 := by
  induction body with
  | nil => simp [BodyHolds]
  | cons entry rest ih => rw [BodyHolds, ih, List.forall_mem_cons]

theorem everyHolds_iff {bodies : List Value} : EveryHolds now document bodies ↔
    ∀ item ∈ bodies, ∃ body, item = .document body ∧ BodyHolds now document body := by
  induction bodies with
  | nil => simp [EveryHolds]
  | cons item rest ih => cases item <;> simp [EveryHolds, ih]

theorem someHolds_iff {bodies : List Value} : SomeHolds now document bodies ↔
    ∃ body, .document body ∈ bodies ∧ BodyHolds now document body := by
  induction bodies with
  | nil => simp [SomeHolds]
  | cons item rest ih => cases item <;> simp [SomeHolds, ih, or_and_right, exists_or]

end Quantifiers

/-! ## Reading operands -/

/-- The keys of operators on what a path names. -/
def FieldOperator.key : FieldOperator → String
  | compare .equal => "$eq"
  | compare .notEqual => "$ne"
  | compare .greater => "$gt"
  | compare .greaterOrEqual => "$gte"
  | compare .less => "$lt"
  | compare .lessOrEqual => "$lte"
  | member membership => membership.key
  | exist => "$exists"
  | size => "$size"
  | negate => "$not"

/-- One line of a table: what is found stands there, or further down. -/
theorem of_ite_eq_some {α : Type} {p : Prop} [Decidable p] {entry found : α} {others : Option α}
    (h : (if p then some entry else others) = some found) : (p ∧ entry = found) ∨ others = some found := by
  by_cases hp : p
  · rw [if_pos hp] at h
    exact .inl ⟨hp, Option.some.inj h⟩
  · rw [if_neg hp] at h
    exact .inr h

theorem FieldOperator.eq_key_of_ofKey? {key : String} {operator : FieldOperator}
    (h : ofKey? key = some operator) : key = operator.key := by
  unfold ofKey? at h
  repeat
    obtain ⟨hkey, rfl⟩ | h := of_ite_eq_some h
    · exact hkey
  exact nomatch h

theorem Connective.eq_key_of_ofKey? {key : String} {connective : Connective}
    (h : ofKey? key = some connective) : key = connective.key := by
  unfold ofKey? at h
  repeat
    obtain ⟨hkey, rfl⟩ | h := of_ite_eq_some h
    · exact hkey
  exact nomatch h

namespace Filter

variable {now : Option Instant} {found : Option Value} {operand : Value}

theorem readConstant_eq_ok_iff {constant : Value} :
    readConstant now operand = .ok constant ↔ bind now operand = .ok constant :=
  mapError_eq_ok_iff

/-- What is said of a constant as bound is said of the constant that is read. -/
theorem bound_iff {constant : Value} {property : Value → Prop} (h : readConstant now operand = .ok constant) :
    Bound now operand property ↔ property constant := by
  rw [readConstant_eq_ok_iff] at h
  simp [Bound, h]

theorem compares_iff {comparison : Comparison} {constant : Value}
    (h : readConstant now operand = .ok constant) :
    compares comparison found constant = true ↔
      OperatorHolds now found (FieldOperator.compare comparison).key operand := by
  cases comparison with
  | equal =>
      rw [FieldOperator.key, OperatorHolds, Equals, bound_iff h]
      exact equalTo_iff
  | notEqual =>
      rw [FieldOperator.key, OperatorHolds, Equals, bound_iff h, ← equalTo_iff]
      simp [compares]
  | greater | greaterOrEqual | less | lessOrEqual =>
      rw [compares, FieldOperator.key, OperatorHolds, bound_iff h, inRange_iff]
      exact fun order => by cases order <;> decide

/-- Constants are bound one for one, so none is lost and none comes up that is not written. -/
theorem mapM_readConstant {items constants : List Value}
    (h : items.mapM (readConstant now) = .ok constants) :
    constants.length = items.length ∧ ∀ property : Value → Prop,
      (∃ constant ∈ constants, property constant) ↔ ∃ item ∈ items, Bound now item property := by
  induction items generalizing constants with
  | nil =>
      obtain rfl : [] = constants := Except.ok.inj h
      simp
  | cons item rest ih =>
      rw [List.mapM_cons] at h
      obtain ⟨constant, hconstant, h⟩ := bind_eq_ok_iff.mp h
      obtain ⟨others, rfl, hothers⟩ := cons_eq_ok h
      obtain ⟨hlength, hmem⟩ := ih hothers
      refine ⟨by simp [hlength], fun property => ?_⟩
      simp [hmem property, bound_iff hconstant]

/-- A set that can be read is an array that is not too large. -/
theorem readSet_eq_ok {membership : Membership} {constants : List Value}
    (h : readSet now membership operand = .ok constants) :
    ∃ items, operand = .array items ∧ items.length ≤ maxSet ∧
      items.mapM (readConstant now) = .ok constants := by
  cases operand with
  | array items =>
      rw [readSet] at h
      split at h
      · exact nomatch h
      next hlarge => exact ⟨items, rfl, Nat.le_of_not_lt hlarge, h⟩
  | _ => exact nomatch h

/-- A test for the constants of a set tells whether something found is equal to one of those listed. -/
theorem inSet_iff_oneOf {membership : Membership} {constants : List Value}
    (h : readSet now membership operand = .ok constants) :
    inSet found constants = true ↔ OneOf now found operand := by
  obtain ⟨items, rfl, hbound, hread⟩ := readSet_eq_ok h
  obtain ⟨hlength, hmem⟩ := mapM_readConstant hread
  rw [inSet_iff (by omega), hmem]
  simp [OneOf, Equals]

theorem readSize_eq_ok {length : Nat} (h : readSize operand = .ok length) :
    operand.wholeNumber? = some (length : Int) := by
  unfold readSize at h
  split at h
  · exact nomatch h
  next n hwhole =>
    split at h
    next m hcount =>
      obtain rfl := Except.ok.inj h
      unfold Count.ofInteger? at hcount
      split at hcount
      · exact nomatch hcount
      · obtain rfl := Option.some.inj hcount
        rw [hwhole, Int.toNat_of_nonneg (by omega)]
    next => exact nomatch h

theorem accepts_conjunction (clauses : List Filter) (document : Fields) :
    (conjunction clauses).accepts document = acceptsAll clauses document := by
  cases clauses with
  | nil => rfl
  | cons clause rest =>
      cases rest with
      | nil => simp [conjunction, acceptsAll]
      | cons second others => simp [conjunction, accepts]

/-! ## Reading operators -/

variable {path : FieldPath} {document : Fields} {key : String}

/-- What an operator is read as. -/
inductive OperatorReads (now : Option Instant) (path : FieldPath) (key : String) (operand : Value) :
    Filter → Prop where
  | compare {comparison : Comparison} {constant : Value}
      (hkey : FieldOperator.ofKey? key = some (.compare comparison))
      (hread : readConstant now operand = .ok constant) :
      OperatorReads now path key operand (.compared path comparison constant)
  | member {membership : Membership} {constants : List Value}
      (hkey : FieldOperator.ofKey? key = some (.member membership))
      (hread : readSet now membership operand = .ok constants) :
      OperatorReads now path key operand (membership.clause path constants)
  | exist (hkey : FieldOperator.ofKey? key = some .exist) :
      OperatorReads now path key operand (.present path (isTruthy operand))
  | size {length : Nat} (hkey : FieldOperator.ofKey? key = some .size)
      (hread : readSize operand = .ok length) :
      OperatorReads now path key operand (.sized path length)
  | negate {inner : Fields} {clauses : List Filter}
      (hkey : FieldOperator.ofKey? key = some .negate) (hdocument : operand = .document inner)
      (hread : readOperators now path inner = .ok clauses) :
      OperatorReads now path key operand (.negation (conjunction clauses))

/-- An operator document that can be read begins with one clause for its first operator. -/
theorem readOperators_cons {rest : Fields} {clauses : List Filter}
    (h : readOperators now path ((key, operand) :: rest) = .ok clauses) :
    ∃ clause others, clauses = clause :: others ∧ OperatorReads now path key operand clause ∧
      readOperators now path rest = .ok others := by
  unfold readOperators at h
  split at h
  next comparison hkey =>
    obtain ⟨constant, hread, h⟩ := bind_eq_ok_iff.mp h
    obtain ⟨others, hclauses, hothers⟩ := cons_eq_ok h
    exact ⟨_, others, hclauses, .compare hkey hread, hothers⟩
  next membership hkey =>
    obtain ⟨constants, hread, h⟩ := bind_eq_ok_iff.mp h
    obtain ⟨others, hclauses, hothers⟩ := cons_eq_ok h
    exact ⟨_, others, hclauses, .member hkey hread, hothers⟩
  next hkey =>
    obtain ⟨others, hclauses, hothers⟩ := cons_eq_ok h
    exact ⟨_, others, hclauses, .exist hkey, hothers⟩
  next hkey =>
    obtain ⟨length, hread, h⟩ := bind_eq_ok_iff.mp h
    obtain ⟨others, hclauses, hothers⟩ := cons_eq_ok h
    exact ⟨_, others, hclauses, .size hkey hread, hothers⟩
  next hkey =>
    split at h
    -- a negation holds operators of its own
    next inner =>
      split at h
      · obtain ⟨inside, hread, h⟩ := bind_eq_ok_iff.mp h
        obtain ⟨others, hclauses, hothers⟩ := cons_eq_ok h
        exact ⟨_, others, hclauses, .negate hkey rfl hread, hothers⟩
      · cases h
    next => cases h
  next => cases h

/-- A clause accepts a document if the operator it was read from holds of what the path names; under a
negation this is supposed of the operators inside. -/
theorem OperatorReads.accepts_iff {clause : Filter} (h : OperatorReads now path key operand clause)
    (hinner : ∀ inner clauses, operand = .document inner → readOperators now path inner = .ok clauses →
      (acceptsAll clauses document = true ↔ OperatorsHold now (resolvePresent document path) inner)) :
    clause.accepts document = true ↔
      OperatorHolds now (resolvePresent document path) key operand := by
  cases h with
  | compare hkey hread =>
      rw [FieldOperator.eq_key_of_ofKey? hkey, ← compares_iff hread, accepts]
  | @member membership constants hkey hread =>
      rw [FieldOperator.eq_key_of_ofKey? hkey]
      cases membership with
      | inside =>
          show inSet _ _ = true ↔ OperatorHolds now _ "$in" operand
          rw [OperatorHolds, inSet_iff_oneOf hread]
      | outside =>
          show (!inSet _ _) = true ↔ OperatorHolds now _ "$nin" operand
          rw [OperatorHolds, ← inSet_iff_oneOf hread]
          simp
  | exist hkey =>
      rw [FieldOperator.eq_key_of_ofKey? hkey, FieldOperator.key, OperatorHolds, accepts, beq_iff_eq,
        Bool.eq_iff_iff, Option.isSome_iff_exists]
  | size hkey hread =>
      rw [FieldOperator.eq_key_of_ofKey? hkey, FieldOperator.key, OperatorHolds, accepts, hasLength_iff,
        readSize_eq_ok hread]
      simp only [Option.some.injEq, Int.natCast_inj, eq_comm]
  -- the operators inside are those of the hypothesis
  | negate hkey hdocument hread =>
      rw [FieldOperator.eq_key_of_ofKey? hkey, FieldOperator.key, hdocument, OperatorHolds, accepts,
        accepts_conjunction, ← hinner _ _ hdocument hread]
      simp

/-- What holds of no operators and passes from the operators inside a first one, and from those after it, to
all of them holds of every operator document that can be read. -/
theorem readOperators_induction {motive : Fields → List Filter → Prop} (hnil : motive [] [])
    (hcons : ∀ key operand clause rest others, OperatorReads now path key operand clause →
      (∀ inner clauses, operand = .document inner → readOperators now path inner = .ok clauses →
        motive inner clauses) →
      motive rest others → motive ((key, operand) :: rest) (clause :: others)) :
    ∀ (operators : Fields) (clauses : List Filter),
      readOperators now path operators = .ok clauses → motive operators clauses
  | [], clauses, h => by
      rw [readOperators] at h
      obtain rfl := Except.ok.inj h
      exact hnil
  | (key, operand) :: rest, clauses, h => by
      obtain ⟨clause, others, rfl, hclause, hothers⟩ := readOperators_cons h
      -- below a negation stand operators of the first entry, so less is written there
      have hfirst : ∀ inner inside, operand = .document inner → readOperators now path inner = .ok inside →
          motive inner inside :=
        fun inner inside hinner hread => readOperators_induction hnil hcons inner inside hread
      have hrest : motive rest others := readOperators_induction hnil hcons rest others hothers
      exact hcons key operand clause rest others hclause hfirst hrest
termination_by operators => sizeOf operators
decreasing_by
  · subst hinner
    simp only [List.cons.sizeOf_spec, Prod.mk.sizeOf_spec, Value.document.sizeOf_spec]
    omega
  · simp only [List.cons.sizeOf_spec]
    omega

/-- **Operators.** The clauses of an operator document accept a document if the operators hold of what the
path names in it. -/
theorem accepts_readOperators (operators : Fields) (clauses : List Filter)
    (h : readOperators now path operators = .ok clauses) :
    acceptsAll clauses document = true ↔ OperatorsHold now (resolvePresent document path) operators := by
  refine readOperators_induction (motive := fun operators clauses => acceptsAll clauses document = true ↔
    OperatorsHold now (resolvePresent document path) operators) ?_ ?_ operators clauses h
  · simp [acceptsAll, OperatorsHold]
  · intro key operand clause rest others hclause hinner hrest
    rw [acceptsAll, OperatorsHold, Bool.and_eq_true, hclause.accepts_iff hinner, hrest]

/-! ## Reading bodies -/

variable {value : Value}

/-- What is written for a field is read as: operators, or else a constant. -/
inductive FieldReads (now : Option Instant) (path : FieldPath) : Value → Filter → Prop where
  | operators {operators : Fields} {clauses : List Filter} (hoperators : areOperators operators = true)
      (hread : readOperators now path operators = .ok clauses) :
      FieldReads now path (.document operators) (conjunction clauses)
  | constant {value constant : Value}
      (hplain : ∀ fields, value = .document fields → areOperators fields = false)
      (hread : readConstant now value = .ok constant) :
      FieldReads now path value (.compared path .equal constant)

theorem fieldReads {clause : Filter} (h : readField now path value = .ok clause) :
    FieldReads now path value clause := by
  have hconstant : (∀ fields, value = .document fields → areOperators fields = false) →
      (do pure (compared path .equal (← readConstant now value)) : Except _ _) = .ok clause →
      FieldReads now path value clause := by
    intro hplain h
    obtain ⟨constant, hread, h⟩ := bind_eq_ok_iff.mp h
    obtain rfl := Except.ok.inj h
    exact .constant hplain hread
  cases value with
  | document fields =>
      rw [readField] at h
      by_cases hoperators : areOperators fields = true
      · rw [if_pos hoperators] at h
        obtain ⟨clauses, hread, h⟩ := bind_eq_ok_iff.mp h
        obtain rfl := Except.ok.inj h
        exact .operators hoperators hread
      · rw [if_neg hoperators] at h
        refine hconstant ?_ h
        rintro _ ⟨⟩
        exact Bool.eq_false_iff.mpr hoperators
  | _ =>
      refine hconstant ?_ h
      intro fields hdocument
      cases hdocument

/-- What is written for a field without operators holds of what is equal to it. -/
theorem writtenHolds_of_plain {found : Option Value}
    (h : ∀ fields, value = .document fields → areOperators fields = false) :
    WrittenHolds now found value ↔ Equals now found value := by
  cases value with
  | document fields =>
      rw [WrittenHolds, if_neg (Bool.eq_false_iff.mp (h fields rfl))]
  | _ => rfl

/-- **Fields.** The clause read for a path accepts a document exactly if what is written holds of what the
path names in it. -/
theorem accepts_readField {clause : Filter} (h : readField now path value = .ok clause) :
    clause.accepts document = true ↔ WrittenHolds now (resolvePresent document path) value := by
  cases fieldReads h with
  | operators hoperators hread =>
      rw [WrittenHolds, if_pos hoperators, accepts_conjunction, accepts_readOperators _ _ hread]
  | constant hplain hread =>
      rw [writtenHolds_of_plain hplain, Equals, bound_iff hread]
      exact equalTo_iff

/-- What an entry of a filter is read as. -/
inductive EntryReads (now : Option Instant) (key : String) (value : Value) : Filter → Prop where
  | connective {connective : Connective} {items : List Value} {clauses : List Filter}
      (hkey : Connective.ofKey? key = some connective) (harray : value = .array items)
      (hread : readList now connective items = .ok clauses) :
      EntryReads now key value (connective.combine clauses)
  | field {path : FieldPath} {clause : Filter} (hkey : Connective.ofKey? key = none)
      (hpath : FieldPath.parse key = .ok path) (hread : readField now path value = .ok clause) :
      EntryReads now key value clause

/-- A body that can be read begins with one clause for its first entry. -/
theorem readClauses_cons {rest : Fields} {clauses : List Filter}
    (h : readClauses now ((key, value) :: rest) = .ok clauses) :
    ∃ clause others, clauses = clause :: others ∧ EntryReads now key value clause ∧
      readClauses now rest = .ok others := by
  unfold readClauses at h
  split at h
  next connective hkey =>
    split at h
    next => cases h
    next items hitems =>
      obtain ⟨inside, hread, h⟩ := bind_eq_ok_iff.mp h
      obtain ⟨others, hclauses, hothers⟩ := cons_eq_ok h
      exact ⟨_, others, hclauses, .connective hkey rfl hread, hothers⟩
    next => cases h
  next hkey =>
    split at h
    · cases h
    · obtain ⟨path, hpath, h⟩ := bind_eq_ok_iff.mp h
      obtain ⟨clause, hread, h⟩ := bind_eq_ok_iff.mp h
      obtain ⟨others, hclauses, hothers⟩ := cons_eq_ok h
      exact ⟨clause, others, hclauses, .field hkey (mapError_eq_ok_iff.mp hpath) hread, hothers⟩

/-- A list of filters under a connective is read one after another, each as the conjunction of its clauses. -/
theorem readList_cons {connective : Connective} {rest : List Value} {clauses : List Filter}
    (h : readList now connective (value :: rest) = .ok clauses) :
    ∃ body inner others, value = .document body ∧ clauses = conjunction inner :: others ∧
      readClauses now body = .ok inner ∧ readList now connective rest = .ok others := by
  cases value with
  | document body =>
      rw [readList] at h
      obtain ⟨inner, hread, h⟩ := bind_eq_ok_iff.mp h
      obtain ⟨others, hclauses, hothers⟩ := cons_eq_ok h
      exact ⟨body, inner, others, rfl, hclauses, hread, hothers⟩
  | _ => simp [readList] at h

/-- The filters read from a list accept as its bodies hold, if this is so of each body. -/
theorem accepts_readList {connective : Connective} {items : List Value} {clauses : List Filter}
    (h : readList now connective items = .ok clauses)
    (hbodies : ∀ body inner, .document body ∈ items → readClauses now body = .ok inner →
      (acceptsAll inner document = true ↔ BodyHolds now document body)) :
    (acceptsAll clauses document = true ↔ EveryHolds now document items) ∧
      (acceptsAny clauses document = true ↔ SomeHolds now document items) := by
  induction items generalizing clauses with
  | nil =>
      rw [readList] at h
      obtain rfl := Except.ok.inj h
      simp [acceptsAll, acceptsAny, EveryHolds, SomeHolds]
  | cons item rest ih =>
      obtain ⟨body, inner, others, rfl, rfl, hread, hothers⟩ := readList_cons h
      have hfirst : (conjunction inner).accepts document = true ↔ BodyHolds now document body := by
        rw [accepts_conjunction]
        exact hbodies body inner List.mem_cons_self hread
      obtain ⟨hall, hany⟩ := ih hothers fun body inner hm => hbodies body inner (List.mem_cons_of_mem _ hm)
      constructor
      · rw [acceptsAll, EveryHolds, Bool.and_eq_true, hfirst, hall]
      · rw [acceptsAny, SomeHolds, Bool.or_eq_true, hfirst, hany]

theorem entryHolds_of_field (h : Connective.ofKey? key = none) :
    EntryHolds now document key value ↔
      ∃ path, FieldPath.parse key = .ok path ∧ WrittenHolds now (resolvePresent document path) value := by
  unfold EntryHolds
  split
  · exact nomatch h
  · exact nomatch h
  · exact nomatch h
  · rfl

/-- A clause accepts a document if the entry it was read from holds of it; of the bodies inside this is
supposed. -/
theorem EntryReads.accepts_iff {clause : Filter} (h : EntryReads now key value clause)
    (hbodies : ∀ items body inner, value = .array items → .document body ∈ items →
      readClauses now body = .ok inner →
      (acceptsAll inner document = true ↔ BodyHolds now document body)) :
    clause.accepts document = true ↔ EntryHolds now document key value := by
  cases h with
  | @connective connective items clauses hkey harray hread =>
      obtain ⟨hall, hany⟩ := accepts_readList hread fun body inner hm => hbodies items body inner harray hm
      rw [Connective.eq_key_of_ofKey? hkey, harray]
      cases connective with
      | and =>
          rw [Connective.combine, Connective.key, EntryHolds, accepts, hall]
      | or =>
          rw [Connective.combine, Connective.key, EntryHolds, accepts, hany]
      | nor =>
          rw [Connective.combine, Connective.key, EntryHolds, accepts, ← hany]
          simp
  | field hkey hpath hread =>
      rw [entryHolds_of_field hkey, accepts_readField hread]
      simp [hpath]

/-- What holds of no entries and passes from the bodies listed in a first one, and from those after it, to
all of them holds of every body that can be read. -/
theorem readClauses_induction {motive : Fields → List Filter → Prop} (hnil : motive [] [])
    (hcons : ∀ key value clause rest others, EntryReads now key value clause →
      (∀ items body inner, value = .array items → .document body ∈ items →
        readClauses now body = .ok inner → motive body inner) →
      motive rest others → motive ((key, value) :: rest) (clause :: others)) :
    ∀ (body : Fields) (clauses : List Filter), readClauses now body = .ok clauses → motive body clauses
  | [], clauses, h => by
      rw [readClauses] at h
      obtain rfl := Except.ok.inj h
      exact hnil
  | (key, value) :: rest, clauses, h => by
      obtain ⟨clause, others, rfl, hclause, hothers⟩ := readClauses_cons h
      have hfirst : ∀ items inside inner, value = .array items → .document inside ∈ items →
          readClauses now inside = .ok inner → motive inside inner :=
        fun items inside inner harray hm hread => readClauses_induction hnil hcons inside inner hread
      have hrest : motive rest others := readClauses_induction hnil hcons rest others hothers
      exact hcons key value clause rest others hclause hfirst hrest
termination_by body => sizeOf body
decreasing_by
  · have hitem := List.sizeOf_lt_of_mem hm
    subst harray
    simp only [List.cons.sizeOf_spec, Prod.mk.sizeOf_spec, Value.array.sizeOf_spec,
      Value.document.sizeOf_spec] at hitem ⊢
    omega
  · simp only [List.cons.sizeOf_spec]
    omega

/-- **Bodies.** The clauses of a body accept a document if the body holds of it. -/
theorem accepts_readClauses (body : Fields) (clauses : List Filter) (h : readClauses now body = .ok clauses) :
    acceptsAll clauses document = true ↔ BodyHolds now document body := by
  refine readClauses_induction (motive := fun body clauses => acceptsAll clauses document = true ↔
    BodyHolds now document body) ?_ ?_ body clauses h
  · simp [acceptsAll, BodyHolds]
  · intro key value clause rest others hclause hbodies hrest
    rw [acceptsAll, BodyHolds, Bool.and_eq_true, hclause.accepts_iff hbodies, hrest]

/-- **A filter means what it says.** A filter that can be read, under any reference instant, accepts the
documents of which every written entry holds, and no others. -/
theorem accepts_iff_entries_hold {body : Fields} {filter : Filter} (h : ofFields now body = .ok filter)
    (document : Fields) :
    filter.accepts document = true ↔ ∀ entry ∈ body, EntryHolds now document entry.1 entry.2 := by
  obtain ⟨clauses, hread, hfilter⟩ := bind_eq_ok_iff.mp h
  obtain rfl := Except.ok.inj hfilter
  rw [accepts_conjunction, accepts_readClauses body clauses hread, bodyHolds_iff]

/-- A choice between a set and a negated comparison, beside two operators on one field. -/
theorem accepts_iff_entries_hold_nested :
    let body : Fields := [
      ("$or", .array [.document [("status", .document [("$in", .array [.string "new", .null])])],
        .document [("n", .document [("$not", .document [("$gte", .int32 5)])])]]),
      ("tags", .document [("$size", .int32 2), ("$ne", .string "z")])]
    let document : Fields := [("status", .string "old"), ("n", .int32 3),
      ("tags", .array [.string "x", .string "y"])]
    ∃ filter, ofFields none body = .ok filter ∧ filter.accepts document = true ∧
      (filter.accepts document = true ↔
        ∀ entry ∈ body, EntryHolds none document entry.1 entry.2) := by
  intro body document
  have hstatus : FieldPath.parse "status" = .ok ⟨["status"], by simp⟩ := by rfl
  have hn : FieldPath.parse "n" = .ok ⟨["n"], by simp⟩ := by rfl
  have htags : FieldPath.parse "tags" = .ok ⟨["tags"], by simp⟩ := by rfl
  have hread : ofFields none body = .ok (.all [
      .any [.oneOf ⟨["status"], by simp⟩ [.string "new", .null],
        .negation (.compared ⟨["n"], by simp⟩ .greaterOrEqual (.int32 5))],
      .all [.sized ⟨["tags"], by simp⟩ 2, .compared ⟨["tags"], by simp⟩ .notEqual (.string "z")]]) := by
    simp [ofFields, body, readClauses, readList, readField, readOperators, Connective.ofKey?,
      FieldOperator.ofKey?, areOperators, Text.beginsWith, readConstant, readSet, readSize, maxSet,
      Value.wholeNumber?, Count.ofInteger?, bind, nowVariable, hstatus, hn, htags, Except.mapError,
      Bind.bind, Except.bind, Pure.pure, Except.pure, conjunction, Connective.combine, Membership.clause]
  exact ⟨_, hread, by decide +kernel, accepts_iff_entries_hold hread document⟩

end Filter
end Docstore

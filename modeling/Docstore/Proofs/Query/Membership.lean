import Docstore.Pipeline.Basic
import Docstore.Proofs.Query.Meaning

/-!
# `Docstore.Proofs.Query.Membership` — clauses on sets and equality with a value

A clause on a set looks through its first `maxSet` values and leaves the others out. Only the reader of
written filters refuses a larger set; a filter put together from clauses may hold one, and a pipeline takes
it. So a clause on a set says what equality with the values of the set says as long as the values left out
add nothing (`exactOn_iff`), and wherever it stands in a filter that was read it always does.

## Contents
- **One clause.** `EqualsSome`, `Membership.ExactOn`, and the values left out.
- **Clauses in a filter.** `Occurs`, `BoundedSets` and the rules for filters put together from others.
- **Filters read.** The sets of operators, fields, lists and bodies are bounded.
- **Exactness.** `set_clauses_exact`, and a value behind the bound.
-/

namespace Docstore

namespace Filter

variable {path : FieldPath} {values : List Value} {document : Fields} {membership : Membership}

/-! ## One clause -/

/-- What a path names equals one of some values, by the clause that asks for equality. -/
def EqualsSome (path : FieldPath) (values : List Value) (document : Fields) : Prop :=
  ∃ value ∈ values, (compared path .equal value).accepts document = true

theorem equalsSome_append {others : List Value} : EqualsSome path (values ++ others) document ↔
    EqualsSome path values document ∨ EqualsSome path others document := by
  simp [EqualsSome, or_and_right, exists_or]

/-- A clause on a set knows the values up to the bound. -/
theorem accepts_oneOf_iff :
    (oneOf path values).accepts document = true ↔ EqualsSome path (values.take maxSet) document := by
  rw [accepts, inSet, List.any_eq_true]
  rfl

/-- The two clauses on a set are opposites. -/
theorem accepts_notOneOf :
    (notOneOf path values).accepts document = !(oneOf path values).accepts document := by
  rw [accepts, accepts]

end Filter

/-- A clause on a set says of a document what equality with the values of the set says. -/
def Membership.ExactOn (path : FieldPath) (values : List Value) (document : Fields) : Membership → Prop
  | inside => (Filter.oneOf path values).accepts document = true ↔ Filter.EqualsSome path values document
  | outside =>
    (Filter.notOneOf path values).accepts document = true ↔ ¬Filter.EqualsSome path values document

namespace Filter

variable {path : FieldPath} {values : List Value} {document : Fields} {membership : Membership}

/-- A clause on a set is exact if no value is equal behind the bound alone. -/
theorem exactOn_iff : membership.ExactOn path values document ↔
    (EqualsSome path (values.drop maxSet) document → EqualsSome path (values.take maxSet) document) := by
  have hsplit : EqualsSome path values document ↔
      EqualsSome path (values.take maxSet) document ∨ EqualsSome path (values.drop maxSet) document := by
    rw [← equalsSome_append, List.take_append_drop]
  cases membership with
  | inside =>
      rw [Membership.ExactOn, accepts_oneOf_iff, hsplit]
      tauto
  | outside =>
      rw [Membership.ExactOn, accepts_notOneOf, Bool.not_eq_true', ← Bool.not_eq_true, accepts_oneOf_iff,
        hsplit]
      tauto

/-- A set that is not cut off is tested exactly. -/
theorem exactOn_of_length_le (h : values.length ≤ maxSet) : membership.ExactOn path values document := by
  rw [exactOn_iff, List.drop_eq_nil_of_le h]
  rintro ⟨value, hm, -⟩
  exact nomatch hm

/-! ## Clauses in a filter -/

/-- The filters that a filter is put together from. -/
def parts : Filter → List Filter
  | all clauses | any clauses | noneOf clauses => clauses
  | negation clause => [clause]
  | _ => []

/-- A clause stands in a filter, at any depth. -/
inductive Occurs (clause : Filter) : Filter → Prop where
  | here : Occurs clause clause
  | part {inner filter : Filter} (hm : inner ∈ filter.parts) (hinside : Occurs clause inner) :
      Occurs clause filter

/-- The set of a clause on one. -/
def set? : Filter → Option (List Value)
  | oneOf _ values | notOneOf _ values => some values
  | _ => none

theorem set?_clause : (membership.clause path values).set? = some values := by
  cases membership <;> rfl

/-- No clause in a filter has a set that is too large. -/
def BoundedSets (filter : Filter) : Prop :=
  ∀ clause, Occurs clause filter → ∀ values, clause.set? = some values → values.length ≤ maxSet

/-- The sets of a filter are its own, if it is a clause on one, and those of its parts. -/
theorem boundedSets_of_parts {filter : Filter}
    (hown : ∀ values, filter.set? = some values → values.length ≤ maxSet)
    (hparts : ∀ inner ∈ filter.parts, BoundedSets inner) : BoundedSets filter := by
  intro clause hoccurs
  cases hoccurs with
  | here => exact hown
  | part hm hinside => exact hparts _ hm clause hinside

theorem boundedSets_clause (h : values.length ≤ maxSet) : BoundedSets (membership.clause path values) := by
  refine boundedSets_of_parts ?_ ?_
  · intro found hfound
    obtain rfl := Option.some.inj (set?_clause.symm.trans hfound)
    exact h
  · cases membership <;> exact nofun

/-- Clauses with bounded sets keep them bounded under a connective. -/
theorem boundedSets_combine {connective : Connective} {clauses : List Filter}
    (h : ∀ clause ∈ clauses, BoundedSets clause) : BoundedSets (connective.combine clauses) := by
  cases connective <;> exact boundedSets_of_parts nofun h

theorem boundedSets_negation {clause : Filter} (h : BoundedSets clause) : BoundedSets (.negation clause) := by
  refine boundedSets_of_parts nofun ?_
  intro inner hm
  obtain rfl := List.mem_singleton.mp hm
  exact h

theorem boundedSets_conjunction {clauses : List Filter} (h : ∀ clause ∈ clauses, BoundedSets clause) :
    BoundedSets (conjunction clauses) := by
  match clauses with
  | [] => exact boundedSets_of_parts nofun nofun
  | [clause] => exact h clause List.mem_cons_self
  | first :: second :: others => exact boundedSets_of_parts nofun h

/-! ## Filters read -/

variable {now : Option Instant} {key : String} {operand value : Value}

/-- A set that is read is not too large. -/
theorem length_le_of_readSet (h : readSet now membership operand = .ok values) :
    values.length ≤ maxSet := by
  obtain ⟨items, -, hbound, hread⟩ := readSet_eq_ok h
  rw [(mapM_readConstant hread).1]
  exact hbound

/-- The clause of an operator has bounded sets; of the operators inside a negation this is supposed. -/
theorem OperatorReads.boundedSets {clause : Filter} (h : OperatorReads now path key operand clause)
    (hinner : ∀ inner clauses, operand = .document inner → readOperators now path inner = .ok clauses →
      ∀ clause ∈ clauses, BoundedSets clause) : BoundedSets clause := by
  cases h with
  | member hkey hread => exact boundedSets_clause (length_le_of_readSet hread)
  | negate hkey hdocument hread =>
      exact boundedSets_negation (boundedSets_conjunction (hinner _ _ hdocument hread))
  | compare | exist | size => exact boundedSets_of_parts nofun nofun

theorem boundedSets_readOperators {operators : Fields} {clauses : List Filter}
    (h : readOperators now path operators = .ok clauses) : ∀ clause ∈ clauses, BoundedSets clause := by
  refine readOperators_induction (motive := fun _ clauses => ∀ clause ∈ clauses, BoundedSets clause)
    nofun ?_ operators clauses h
  intro key operand clause rest others hclause hinner hrest
  exact List.forall_mem_cons.mpr ⟨hclause.boundedSets hinner, hrest⟩

theorem boundedSets_readField {clause : Filter} (h : readField now path value = .ok clause) :
    BoundedSets clause := by
  cases fieldReads h with
  | operators hoperators hread => exact boundedSets_conjunction (boundedSets_readOperators hread)
  | constant => exact boundedSets_of_parts nofun nofun

/-- The filters read from a list have bounded sets, if this is so of each body. -/
theorem boundedSets_readList {connective : Connective} {items : List Value} {clauses : List Filter}
    (h : readList now connective items = .ok clauses)
    (hbodies : ∀ body inner, .document body ∈ items → readClauses now body = .ok inner →
      ∀ clause ∈ inner, BoundedSets clause) : ∀ clause ∈ clauses, BoundedSets clause := by
  induction items generalizing clauses with
  | nil =>
      rw [readList] at h
      obtain rfl := Except.ok.inj h
      intro clause hm
      cases hm
  | cons item rest ih =>
      obtain ⟨body, inner, others, rfl, rfl, hread, hothers⟩ := readList_cons h
      have hfirst : BoundedSets (conjunction inner) :=
        boundedSets_conjunction (hbodies body inner List.mem_cons_self hread)
      have hrest := ih hothers fun body inner hm => hbodies body inner (List.mem_cons_of_mem _ hm)
      exact List.forall_mem_cons.mpr ⟨hfirst, hrest⟩

/-- The clause of an entry has bounded sets; of the bodies inside this is supposed. -/
theorem EntryReads.boundedSets {clause : Filter} (h : EntryReads now key value clause)
    (hbodies : ∀ items body inner, value = .array items → .document body ∈ items →
      readClauses now body = .ok inner → ∀ clause ∈ inner, BoundedSets clause) : BoundedSets clause := by
  cases h with
  | connective hkey harray hread =>
      exact boundedSets_combine (boundedSets_readList hread fun body inner hm => hbodies _ body inner harray hm)
  | field hkey hpath hread => exact boundedSets_readField hread

theorem boundedSets_readClauses {body : Fields} {clauses : List Filter}
    (h : readClauses now body = .ok clauses) : ∀ clause ∈ clauses, BoundedSets clause := by
  refine readClauses_induction (motive := fun _ clauses => ∀ clause ∈ clauses, BoundedSets clause)
    nofun ?_ body clauses h
  intro key value clause rest others hclause hbodies hrest
  exact List.forall_mem_cons.mpr ⟨hclause.boundedSets hbodies, hrest⟩

/-- **Every filter that is read** has bounded sets. -/
theorem boundedSets_ofFields {body : Fields} {filter : Filter} (h : ofFields now body = .ok filter) :
    BoundedSets filter := by
  obtain ⟨clauses, hread, hfilter⟩ := bind_eq_ok_iff.mp h
  obtain rfl := Except.ok.inj hfilter
  exact boundedSets_conjunction (boundedSets_readClauses hread)

/-! ## Exactness -/

/-- **Sets.** A clause on a set of any size says of a document what equality with the values of the set
says, exactly if a value behind the bound is equal only where one before it is. In a filter that was read
every clause on a set does so, at any depth and of all documents. -/
theorem set_clauses_exact (membership : Membership) (path : FieldPath) (values : List Value)
    (document : Fields) :
    (membership.ExactOn path values document ↔
      (EqualsSome path (values.drop maxSet) document → EqualsSome path (values.take maxSet) document)) ∧
    ∀ (now : Option Instant) (body : Fields) (filter : Filter), ofFields now body = .ok filter →
      Occurs (membership.clause path values) filter → membership.ExactOn path values document := by
  refine ⟨exactOn_iff, ?_⟩
  intro now body filter hread hoccurs
  have hlength : values.length ≤ maxSet := boundedSets_ofFields hread _ hoccurs values set?_clause
  exact exactOn_of_length_le hlength

/-- An item of an array is found in a set below a connective, and nothing counts as null. -/
theorem set_clauses_exact_nested :
    let path : FieldPath := ⟨["tags"], by simp⟩
    let values : List Value := [.string "x", .null]
    let body : Fields := [
      ("$nor", .array [.document [("tags", .document [("$nin", .array values)])]])]
    ∃ filter, ofFields none body = .ok filter ∧ Occurs (.notOneOf path values) filter ∧
      ∀ document ∈ ([[("tags", .array [.string "x"])], [], [("tags", .string "y")]] : List Fields),
        Membership.ExactOn path values document .outside := by
  intro path values body
  have htags : FieldPath.parse "tags" = .ok path := by rfl
  have hread : ofFields none body = .ok (.noneOf [.notOneOf path values]) := by
    simp [ofFields, body, values, readClauses, readList, readField, readOperators, Connective.ofKey?,
      FieldOperator.ofKey?, areOperators, Text.beginsWith, readConstant, readSet, maxSet, bind, nowVariable,
      htags, Except.mapError, Bind.bind, Except.bind, Pure.pure, Except.pure, conjunction,
      Connective.combine, Membership.clause]
  have hoccurs : Occurs (.notOneOf path values) (.noneOf [.notOneOf path values]) :=
    .part (List.mem_singleton.mpr rfl) .here
  refine ⟨_, hread, hoccurs, ?_⟩
  intro document _
  exact (set_clauses_exact .outside path values document).2 none body _ hread hoccurs

/-- Behind `maxSet` zeros a one is left out, though a pipeline takes the clause: the clause that asks for a
member rejects a one, and its opposite accepts it. -/
theorem value_behind_bound_left_out :
    let path : FieldPath := ⟨["a"], by simp⟩
    let values : List Value := List.replicate maxSet (.int32 0) ++ [.int32 1]
    let document : Fields := [("a", .int32 1)]
    (∃ pipeline, Pipeline.ofStages [.filter (.oneOf path values), .filter (.notOneOf path values)] =
      .ok pipeline) ∧
    EqualsSome path values document ∧
    (oneOf path values).accepts document = false ∧ (notOneOf path values).accepts document = true := by
  intro path values document
  have htake : values.take maxSet = List.replicate maxSet (.int32 0) := by
    simp [values]
  have hequal : (compared path .equal (.int32 1)).accepts document = true := by decide +kernel
  have hrejected : (oneOf path values).accepts document = false := by
    rw [Bool.eq_false_iff, ne_eq, accepts_oneOf_iff, htake]
    rintro ⟨value, hm, haccepts⟩
    obtain rfl := List.eq_of_mem_replicate hm
    exact absurd haccepts (by decide +kernel)
  refine ⟨⟨_, rfl⟩, ⟨.int32 1, by simp [values], hequal⟩, hrejected, ?_⟩
  rw [accepts_notOneOf, hrejected]
  rfl

end Filter
end Docstore

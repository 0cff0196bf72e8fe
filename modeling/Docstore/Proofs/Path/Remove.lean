import Docstore.Proofs.Path.Alike
import Docstore.Proofs.Value.Names

/-!
# `Docstore.Proofs.Path.Remove` — what is left after a removal

A removal goes through documents only. On a path that meets no array it takes away what the path names, so
that nothing is found there, with or without fan-out. On a path that meets an array it takes away nothing.
Along paths that are apart from its own it leaves the document as it was.

## Contents
- **Removing.** `removeSegments` and its equations, `removeSegments_cases`; `isSome_removeSegments?`,
  `removeSegments_of_missing`.
- **Along other paths.** `alikeAlong_removeSegments`.
- **Along the path itself.** `removeSegments_of_meetsArray`, `resolveSegments_removeSegments`.
- **Many paths.** `removeAll`; `alikeAlong_removeAll`, `resolveSegments_removeAll`.
-/

namespace Docstore

variable {name head next last : String} {rest path other : List String} {paths : List (List String)}
  {fields inner : Fields}

/-! ## Removing -/

/-- The document without what segments name. -/
def removeSegments (segments : List String) (fields : Fields) : Fields :=
  (removeSegments? segments fields).getD fields

theorem removePath_eq (fields : Fields) (path : FieldPath) :
    removePath fields path = removeSegments path.segments fields := rfl

theorem removeSegments_last : removeSegments [last] fields = Entries.erase last fields := by
  unfold removeSegments
  rw [removeSegments?]
  split_ifs with hhas
  · rfl
  · exact (Entries.erase_of_notMem (mt Entries.has_iff.mpr hhas)).symm

theorem removeSegments_of_document (h : Entries.get? head fields = some (.document inner)) :
    removeSegments (head :: next :: rest) fields =
      Entries.insert head (.document (removeSegments (next :: rest) inner)) fields := by
  unfold removeSegments
  rw [removeSegments?, h]
  dsimp only
  cases removeSegments? (next :: rest) inner with
  | none => exact (Entries.insert_of_get? h).symm
  | some left => rfl

/-- A removal stops at anything that is no document. -/
theorem removeSegments_of_other (h : ∀ inner, inside head fields ≠ .one inner) :
    removeSegments (head :: next :: rest) fields = fields := by
  unfold removeSegments
  rw [removeSegments?]
  split
  · next inner hinner => exact absurd (inside_eq_one_iff.mpr hinner) (h inner)
  · rfl

/-- Where a path goes on, a removal changes the document that is there, or nothing. -/
theorem removeSegments_cases (head next : String) (rest : List String) (fields : Fields) :
    (∃ inner, Entries.get? head fields = some (.document inner) ∧
      removeSegments (head :: next :: rest) fields =
        Entries.insert head (.document (removeSegments (next :: rest) inner)) fields) ∨
    removeSegments (head :: next :: rest) fields = fields := by
  by_cases hdocument : ∃ inner, inside head fields = .one inner
  · obtain ⟨inner, hone⟩ := hdocument
    have hinner := inside_eq_one_iff.mp hone
    exact .inl ⟨inner, hinner, removeSegments_of_document hinner⟩
  · exact .inr (removeSegments_of_other fun inner hone => hdocument ⟨inner, hone⟩)

/-- **Something is removed exactly if the path leads to it** through documents. -/
theorem isSome_removeSegments? (path : List String) (fields : Fields) :
    (removeSegments? path fields).isSome = (resolveStrictSegments path fields).isSome := by
  induction path generalizing fields with
  | nil => rfl
  | cons head rest ih =>
      cases rest with
      | nil =>
          show (if Entries.has head fields then _ else none).isSome = Entries.has head fields
          cases Entries.has head fields <;> rfl
      | cons next rest =>
          rw [removeSegments?, resolveStrictSegments]
          cases Entries.get? head fields with
          | none => rfl
          | some value =>
              cases value with
              | document inner =>
                  dsimp only
                  rw [← ih inner]
                  cases removeSegments? (next :: rest) inner <;> rfl
              | _ => rfl

/-- Where a path leads to nothing, the document stays as it was. -/
theorem removeSegments_of_missing (h : resolveStrictSegments path fields = none) :
    removeSegments path fields = fields := by
  have hnone : removeSegments? path fields = none :=
    (Option.isSome_eq_isSome.mp (isSome_removeSegments? path fields)).mpr h
  rw [removeSegments, hnone]
  rfl

/-- A removal leaves no document with a name twice that had none. -/
theorem namesOnce_removeSegments (h : (Value.document fields).namesOnce = true) :
    (Value.document (removeSegments path fields)).namesOnce = true := by
  induction path generalizing fields with
  | nil => exact h
  | cons head rest ih =>
      cases rest with
      | nil =>
          rw [removeSegments_last]
          exact Value.namesOnce_erase h
      | cons next rest =>
          rcases removeSegments_cases head next rest fields with ⟨inner, hinner, hleft⟩ | hleft
          · rw [hleft]
            exact Value.namesOnce_insert h (ih (Value.namesOnce_of_get? h hinner))
          · rwa [hleft]

/-! ## Along other paths -/

/-- **A removal changes nothing along a path apart from its own.** -/
theorem alikeAlong_removeSegments (h : Apart path other) (fields : Fields) :
    AlikeAlong path (removeSegments other fields) fields := by
  induction path generalizing other fields with
  | nil => trivial
  | cons head rest ih =>
      obtain ⟨name, more, rfl⟩ := List.exists_cons_of_ne_nil h.symm.ne_nil
      rcases h.cons_cases with hne | ⟨rfl, hrest, hmore, hapart⟩
      · -- the paths part at once, and the field that is read stays
        refine AlikeAlong.of_get? ?_ rest
        cases more with
        | nil => rw [removeSegments_last, Entries.get?_erase_of_ne hne]
        | cons next more =>
            rcases removeSegments_cases name next more fields with ⟨inner, -, hleft⟩ | hleft
            · rw [hleft, Entries.get?_insert_of_ne hne]
            · rw [hleft]
      · -- both go on in the same field: the removal is one inside its document, or none
        obtain ⟨next, rest, rfl⟩ := List.exists_cons_of_ne_nil hrest
        obtain ⟨next', more, rfl⟩ := List.exists_cons_of_ne_nil hmore
        rcases removeSegments_cases head next' more fields with ⟨inner, hinner, hleft⟩ | hleft
        · rw [hleft]
          exact AlikeAlong.insert_document hinner (ih hapart inner)
        · rw [hleft]
          exact AlikeAlong.refl _ fields

/-! ## Along the path itself -/

/-- **On a path that meets an array nothing is removed.** -/
theorem removeSegments_of_meetsArray (h : MeetsArray path fields) :
    removeSegments path fields = fields := by
  refine removeSegments_of_missing (Option.eq_none_iff_forall_ne_some.mpr fun value hvalue => ?_)
  exact not_meetsArray_of_resolveStrict hvalue h

/-- **On a path that meets no array nothing is left**, whichever way the path is read. -/
theorem resolveSegments_removeSegments (hnames : (Value.document fields).namesOnce = true)
    (h : ¬MeetsArray path fields) (dropEmpty : Bool) :
    resolveSegments dropEmpty path (removeSegments path fields) = none := by
  induction path generalizing fields with
  | nil => rfl
  | cons head rest ih =>
      cases rest with
      | nil =>
          rw [removeSegments_last]
          exact Entries.get?_erase_self (Value.namesOnce_document_iff.mp hnames).1
      | cons next rest =>
          rw [meetsArray_cons_iff] at h
          rw [resolveSegments_inside]
          cases hinside : inside head fields with
          | one inner =>
              have hinner := inside_eq_one_iff.mp hinside
              have hmeets : ¬MeetsArray (next :: rest) inner :=
                fun hmeets => h (.inr ⟨inner, hinside, hmeets⟩)
              rw [removeSegments_of_document hinner, inside_of_get? (Entries.get?_insert_self ..)]
              exact ih (Value.namesOnce_of_get? hnames hinner) hmeets
          -- an array would be met on the way
          | many documents => exact absurd (.inl ⟨documents, hinside⟩) h
          | nothing =>
              rw [removeSegments_of_other (by simp [hinside]), hinside]
              rfl

/-! ## Many paths -/

/-- Removes what paths name, one after the other. -/
def removeAll (paths : List (List String)) (fields : Fields) : Fields :=
  paths.foldl (fun left path => removeSegments path left) fields

theorem removeAll_append (before after : List (List String)) (fields : Fields) :
    removeAll (before ++ after) fields = removeAll after (removeAll before fields) :=
  List.foldl_append

theorem namesOnce_removeAll (h : (Value.document fields).namesOnce = true) :
    (Value.document (removeAll paths fields)).namesOnce = true := by
  induction paths generalizing fields with
  | nil => exact h
  | cons path paths ih => exact ih (namesOnce_removeSegments h)

/-- **Removals change nothing along a path apart from theirs.** -/
theorem alikeAlong_removeAll (h : ∀ other ∈ paths, Apart path other) (fields : Fields) :
    AlikeAlong path (removeAll paths fields) fields := by
  induction paths generalizing fields with
  | nil => exact AlikeAlong.refl path fields
  | cons other paths ih =>
      obtain ⟨hother, hpaths⟩ := List.forall_mem_cons.mp h
      exact (ih hpaths (removeSegments other fields)).trans (alikeAlong_removeSegments hother fields)

/-- **One of several removals.** Of paths that are apart each one is removed as if it were alone: on a way
that meets no array nothing is left, and a way that meets one stays as it was. -/
theorem resolveSegments_removeAll (h : paths.Pairwise Apart) (hm : path ∈ paths)
    (hnames : (Value.document fields).namesOnce = true) (dropEmpty : Bool) :
    (¬MeetsArray path fields → resolveSegments dropEmpty path (removeAll paths fields) = none) ∧
    (MeetsArray path fields → resolveSegments dropEmpty path (removeAll paths fields) =
      resolveSegments dropEmpty path fields) := by
  obtain ⟨before, after, rfl⟩ := List.append_of_mem hm
  obtain ⟨-, hafter, hbefore⟩ := List.pairwise_append.mp h
  -- the removals before and after it change nothing along the path, so only its own counts
  have hearlier : AlikeAlong path (removeAll before fields) fields :=
    alikeAlong_removeAll (fun other hother => (hbefore other hother path (List.mem_cons_self ..)).symm)
      fields
  have hlater : ∀ left, AlikeAlong path (removeAll after left) left :=
    alikeAlong_removeAll (List.pairwise_cons.mp hafter).1
  have hsplit : removeAll (before ++ path :: after) fields =
      removeAll after (removeSegments path (removeAll before fields)) := removeAll_append _ _ fields
  rw [hsplit, (hlater _).resolve]
  constructor
  · intro hmeets
    rw [← hearlier.meetsArray_iff] at hmeets
    exact resolveSegments_removeSegments (namesOnce_removeAll hnames) hmeets dropEmpty
  · intro hmeets
    rw [← hearlier.meetsArray_iff] at hmeets
    rw [removeSegments_of_meetsArray hmeets, hearlier.resolve]

end Docstore

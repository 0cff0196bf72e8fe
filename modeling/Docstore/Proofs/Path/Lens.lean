import Docstore.Proofs.Path.Override

/-!
# `Docstore.Proofs.Path.Lens` — what a write and a removal at one path have to do with reading it

Reading through documents, writing and removing at a path are a lens: what is written is read, of two writes
the later one counts, and to write what is read changes nothing, not even the order of fields. A removal is a
lens that may find nothing: it says whether the path led to something, changes nothing if it did not, and
leaves nothing there if it did. What is read at paths apart from the one that is changed stays as it was.

A removal answers with what is left or with nothing. Made in place it would go down through the document and
answer yes or no; `removeInPlace` is that walk, and `removeInPlace_eq` says that it ends with the same.

## Contents
- **Writing.** `setSegments_setSegments`, `setSegments_of_resolveStrict`.
- **Removing in place.** `removeInPlace`, `removeInPlace_eq`.
- **The whole.** `path_edits_lawful`.
-/

namespace Docstore

variable {path : List String} {value : Value} {fields : Fields}

/-! ## Writing -/

/-- **Of two values written at a path the later one stays**, in the place of the first. -/
theorem setSegments_setSegments (value later : Value) (path : List String) (fields : Fields) :
    setSegments later path (setSegments value path fields) = setSegments later path fields := by
  induction path generalizing fields with
  | nil => rfl
  | cons head rest ih =>
      cases rest with
      | nil => exact Entries.insert_insert later value fields
      | cons next rest =>
          -- the second write goes on in the document that the first one put there
          simp only [setSegments_cons, childFields_insert_document, Entries.insert_insert, ih]

/-- **Writing what a path leads to changes nothing.** -/
theorem setSegments_of_resolveStrict (h : resolveStrictSegments path fields = some value) :
    setSegments value path fields = fields := by
  induction path generalizing fields with
  | nil => exact nomatch h
  | cons head rest ih =>
      cases rest with
      | nil => exact Entries.insert_of_get? h
      | cons next rest =>
          obtain ⟨inner, hinner, hread⟩ := resolveStrictSegments_eq_some_iff.mp h
          rw [setSegments_cons, childFields_of_document hinner, ih hread]
          exact Entries.insert_of_get? hinner

/-! ## Removing in place -/

/-- A removal made in place: whether something was taken out, and the document afterwards. Every document on
the way is put back, whether something was taken out of it or not. -/
def removeInPlace : List String → Fields → Bool × Fields
  | [], fields => (false, fields)
  | [last], fields => (Entries.has last fields, Entries.erase last fields)
  | head :: next :: rest, fields =>
    match Entries.get? head fields with
    | some (.document inner) =>
      let (removed, left) := removeInPlace (next :: rest) inner
      (removed, Entries.insert head (.document left) fields)
    | _ => (false, fields)

/-- **Made in place, a removal says whether the path led to something**, and leaves the same document. -/
theorem removeInPlace_eq (path : List String) (fields : Fields) :
    removeInPlace path fields =
      ((resolveStrictSegments path fields).isSome, removeSegments path fields) := by
  induction path generalizing fields with
  | nil => rfl
  | cons head rest ih =>
      cases rest with
      | nil =>
          rw [removeSegments_last]
          rfl
      | cons next rest =>
          rw [removeInPlace, resolveStrictSegments_cons]
          split
          · next inner hinner =>
              rw [ih inner, childFields_of_document hinner, removeSegments_of_document hinner]
          · next hother =>
              have hempty : childFields head fields = [] := heldFields_of_other hother
              rw [hempty, resolveStrictSegments_empty,
                removeSegments_of_other fun inner hone => hother inner (inside_eq_one_iff.mp hone)]
              rfl

/-! ## The whole -/

/-- **Writing and removing at a path obey the laws of a lens.** In a document that names nothing twice, what is
written at a path is read there; of two writes the later one counts, as if it were the only one; writing what
is read changes nothing. A removal says whether the path led to something, changes nothing if it did not,
leaves nothing there if it did, however the path is read, and comes to the same in place. And paths apart from
the changed one read as before. -/
theorem path_edits_lawful (fields : Fields) (hnames : (Value.document fields).namesOnce = true)
    (path : FieldPath) :
    (∀ value, resolveStrict (setPath fields path value) path = some value) ∧
    (∀ value later, setPath (setPath fields path value) path later = setPath fields path later) ∧
    (∀ value, resolveStrict fields path = some value → setPath fields path value = fields) ∧
    removeInPlace path.segments fields = ((removePath? fields path).isSome, removePath fields path) ∧
    ((removePath? fields path).isSome = true ↔ (resolveStrict fields path).isSome = true) ∧
    ((removePath? fields path).isSome = false → removePath fields path = fields) ∧
    ((removePath? fields path).isSome = true →
      resolveStrict (removePath fields path) path = none ∧
      resolve (removePath fields path) path = none ∧
      resolvePresent (removePath fields path) path = none) ∧
    ∀ other : FieldPath, Apart path.segments other.segments →
      (∀ value, resolveStrict (setPath fields path value) other = resolveStrict fields other) ∧
      resolveStrict (removePath fields path) other = resolveStrict fields other := by
  have hreport : (removePath? fields path).isSome = (resolveStrict fields path).isSome :=
    isSome_removeSegments? path.segments fields
  refine ⟨?_, ?_, ?_, ?_, ?_, ?_, ?_, ?_⟩
  · intro value
    exact resolveStrict_override_self path.nonempty (some value) nofun
  · intro value later
    exact setSegments_setSegments value later path.segments fields
  · intro value hread
    exact setSegments_of_resolveStrict hread
  · rw [hreport]
    exact removeInPlace_eq path.segments fields
  · rw [hreport]
  · intro hnothing
    rw [hreport, Option.isSome_eq_false_iff, Option.isNone_iff_eq_none] at hnothing
    exact removeSegments_of_missing hnothing
  · intro hsomething
    rw [hreport] at hsomething
    obtain ⟨value, hvalue⟩ := Option.isSome_iff_exists.mp hsomething
    -- the path led there through documents, so no reading of it fans out
    have hmeets : ¬MeetsArray path.segments fields := not_meetsArray_of_resolveStrict hvalue
    have hmissing := resolveSegments_removeSegments hnames hmeets
    refine ⟨?_, hmissing false, hmissing true⟩
    exact resolveStrict_override_self path.nonempty none fun _ => uniqueAlong_of_namesOnce hnames _
  · intro other hapart
    constructor
    · intro value
      exact resolveStrict_override_of_apart hapart.symm (some value) fields
    · exact resolveStrict_override_of_apart hapart.symm none fields

/-- A city is written in its place, before the number that stands behind it, and taken out without it. A path
through a number has nothing to take out, and a write there makes the number a document. -/
theorem path_edits_lawful_address :
    let fields : Fields :=
      [("address", .document [("city", .string "x"), ("zip", .int32 1)]), ("total", .int32 5)]
    let city : FieldPath := ⟨["address", "city"], by simp⟩
    let zip : FieldPath := ⟨["address", "zip"], by simp⟩
    let sum : FieldPath := ⟨["total", "sum"], by simp⟩
    (Value.document fields).namesOnce = true ∧
    resolveStrict fields city = some (.string "x") ∧
    setPath fields city (.string "x") = fields ∧
    setPath (setPath fields city .null) city (.string "y") =
      [("address", .document [("city", .string "y"), ("zip", .int32 1)]), ("total", .int32 5)] ∧
    removeInPlace city.segments fields =
      (true, [("address", .document [("zip", .int32 1)]), ("total", .int32 5)]) ∧
    resolveStrict (removePath fields city) city = none ∧
    Apart city.segments zip.segments ∧
    resolveStrict (removePath fields city) zip = some (.int32 1) ∧
    (removePath? fields sum).isSome = false ∧
    removePath fields sum = fields ∧
    resolveStrict (setPath fields sum .null) sum = some .null := by
  intro fields city zip sum
  have hnames : (Value.document fields).namesOnce = true := rfl
  have hcity : resolveStrict fields city = some (.string "x") := rfl
  have hzip : resolveStrict fields zip = some (.int32 1) := rfl
  have hapart : Apart city.segments zip.segments := ⟨by decide, by decide⟩
  have hremoved : (removePath? fields city).isSome = true := rfl
  have hnothing : (removePath? fields sum).isSome = false := rfl
  obtain ⟨-, hlast, hkeep, hplace, -, -, hmissing, hbeside⟩ := path_edits_lawful fields hnames city
  obtain ⟨hread, -, -, -, -, hsame, -, -⟩ := path_edits_lawful fields hnames sum
  exact ⟨hnames, hcity, hkeep _ hcity, (hlast _ _).trans rfl, hplace.trans rfl, (hmissing hremoved).1, hapart,
    (hbeside zip hapart).2.trans hzip, hnothing, hsame hnothing, hread .null⟩

end Docstore

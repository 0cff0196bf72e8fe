import Docstore.Proofs.Path.Alike
import Docstore.Query.Filter

/-!
# `Docstore.Proofs.Path.Route` — what is there for a path

A `Route` follows the segments of a path in a document one by one: from a document to the next, or from an
array to one of the documents in it, up to a field that is there. Whether something is present at a path is
whether some route exists, however arrays are nested and whatever else they hold. Reading that keeps empty
results is different: once an array is met on the way an array is the answer, so a path is missing only if the
walk through nested documents is `Blocked` before that.

Both facts are inductions on the path, with what the first field holds (`inside`) as the only case analysis.

## Contents
- **Routes.** `Route`, `exists_route_cons_iff`; `isSome_resolveSegments_iff`.
- **Missing.** `Blocked`, `blocked_cons_iff`; `resolveSegments_eq_none_iff`.
- **All readings.** `path_readings_agree`.
-/

namespace Docstore

variable {name head next : String} {rest path : List String} {fields : Fields}

/-! ## Routes -/

/-- A way along the segments of a path to a value: each segment but the last names a document, or an array
from which one document is chosen; the last one names a field. -/
inductive Route : List String → Fields → Value → Prop where
  | field {name : String} {fields : Fields} {value : Value} (hfield : Entries.get? name fields = some value) :
      Route [name] fields value
  | document {head next : String} {rest : List String} {fields inner : Fields} {value : Value}
      (hhead : Entries.get? head fields = some (.document inner)) (hroute : Route (next :: rest) inner value) :
      Route (head :: next :: rest) fields value
  | item {head next : String} {rest : List String} {fields inner : Fields} {items : List Value} {value : Value}
      (hhead : Entries.get? head fields = some (.array items)) (hitem : .document inner ∈ items)
      (hroute : Route (next :: rest) inner value) : Route (head :: next :: rest) fields value

/-- The documents that a field holds for the rest of a path. -/
def Inside.documents : Inside → List Fields
  | one inner => [inner]
  | many documents => documents
  | nothing => []

/-- The documents that a field holds are its value, or the items of its array that are documents. -/
theorem mem_documents_inside_iff {inner : Fields} : inner ∈ (inside name fields).documents ↔
    Entries.get? name fields = some (.document inner) ∨
      ∃ items, Entries.get? name fields = some (.array items) ∧ .document inner ∈ items := by
  cases hheld : Entries.get? name fields with
  | none => simp [inside_of_missing hheld, Inside.documents]
  | some value =>
      rw [inside_of_get? hheld]
      cases value with
      | document held => simp [Value.inside, Inside.documents, eq_comm]
      | array items =>
          have hitem : ∀ item : Value, item.fields? = some inner ↔ item = .document inner := by
            intro item
            cases item <;> simp [Value.fields?]
          simp [Value.inside, Inside.documents, hitem]
      | _ => simp [Value.inside, Inside.documents]

theorem exists_route_singleton_iff :
    (∃ value, Route [name] fields value) ↔ (Entries.get? name fields).isSome = true := by
  rw [Option.isSome_iff_exists]
  constructor
  · rintro ⟨value, ⟨hfield⟩⟩
    exact ⟨value, hfield⟩
  · rintro ⟨value, hfield⟩
    exact ⟨value, .field hfield⟩

/-- A route of more than one segment goes on in a document that the first one leads to. -/
theorem exists_route_cons_iff : (∃ value, Route (head :: next :: rest) fields value) ↔
    ∃ inner ∈ (inside head fields).documents, ∃ value, Route (next :: rest) inner value := by
  simp only [mem_documents_inside_iff]
  constructor
  · rintro ⟨value, hroute⟩
    cases hroute with
    | document hhead hroute => exact ⟨_, .inl hhead, value, hroute⟩
    | item hhead hitem hroute => exact ⟨_, .inr ⟨_, hhead, hitem⟩, value, hroute⟩
  · rintro ⟨inner, hhead | ⟨items, hhead, hitem⟩, value, hroute⟩
    · exact ⟨value, .document hhead hroute⟩
    · exact ⟨value, .item hhead hitem hroute⟩

/-- Something is gathered inside a field exactly if it is found in one of the documents there. -/
theorem Inside.isSome_gather_iff {held : Inside} {read : Fields → Option Value} :
    (held.gather true read).isSome = true ↔ ∃ inner ∈ held.documents, (read inner).isSome = true := by
  cases held with
  | one inner => simp [gather, documents]
  | many found =>
      unfold gather documents
      rw [← not_iff_not]
      simp
  | nothing => simp [gather, documents]

/-- **Something is present exactly if a route exists.** -/
theorem isSome_resolveSegments_iff :
    (resolveSegments true path fields).isSome = true ↔ ∃ value, Route path fields value := by
  induction path generalizing fields with
  | nil => exact ⟨nofun, nofun⟩
  | cons head rest ih =>
      cases rest with
      | nil => exact exists_route_singleton_iff.symm
      | cons next rest =>
          rw [resolveSegments_inside, Inside.isSome_gather_iff, exists_route_cons_iff]
          simp only [ih]

/-! ## Missing -/

/-- The walk along a path through nested documents ends at a field that is missing, or before the last
segment at a value that is no document and no array. -/
inductive Blocked : List String → Fields → Prop where
  | missing {head : String} {rest : List String} {fields : Fields} (hhead : Entries.get? head fields = none) :
      Blocked (head :: rest) fields
  | scalar {head next : String} {rest : List String} {fields : Fields} {value : Value}
      (hhead : Entries.get? head fields = some value) (hdocument : ∀ inner, value ≠ .document inner)
      (harray : ∀ items, value ≠ .array items) : Blocked (head :: next :: rest) fields
  | document {head next : String} {rest : List String} {fields inner : Fields}
      (hhead : Entries.get? head fields = some (.document inner)) (hblocked : Blocked (next :: rest) inner) :
      Blocked (head :: next :: rest) fields

theorem blocked_singleton_iff : Blocked [name] fields ↔ Entries.get? name fields = none := by
  constructor
  · rintro ⟨hhead⟩
    exact hhead
  · exact .missing

theorem blocked_cons_iff : Blocked (head :: next :: rest) fields ↔
    inside head fields = .nothing ∨ ∃ inner, inside head fields = .one inner ∧ Blocked (next :: rest) inner := by
  simp only [inside_eq_one_iff]
  constructor
  · intro hblocked
    cases hblocked with
    | missing hhead => exact .inl (inside_of_missing hhead)
    -- a value that is neither a document nor an array holds nothing
    | @scalar _ _ _ _ value hhead hdocument harray =>
        left
        rw [inside_of_get? hhead]
        cases value with
        | document inner => exact absurd rfl (hdocument inner)
        | array items => exact absurd rfl (harray items)
        | _ => rfl
    | document hhead hblocked => exact .inr ⟨_, hhead, hblocked⟩
  · rintro (hnothing | ⟨inner, hhead, hblocked⟩)
    · cases hhead : Entries.get? head fields with
      | none => exact .missing hhead
      | some value =>
          rw [inside_of_get? hhead] at hnothing
          refine .scalar hhead ?_ ?_
          · rintro inner rfl
            exact nomatch hnothing
          · rintro items rfl
            exact nomatch hnothing
    · exact .document hhead hblocked

/-- **A path is missing exactly if the walk through documents is blocked.** -/
theorem resolveSegments_eq_none_iff (head : String) (rest : List String) (fields : Fields) :
    resolveSegments false (head :: rest) fields = none ↔ Blocked (head :: rest) fields := by
  induction rest generalizing head fields with
  | nil => exact blocked_singleton_iff.symm
  | cons next rest ih =>
      rw [resolveSegments_inside, blocked_cons_iff]
      cases inside head fields with
      | one inner => simpa [Inside.gather] using ih next inner
      | many documents => simp [Inside.gather]
      | nothing => simp [Inside.gather]

/-! ## All readings -/

/-- What the strict reading finds, the other readings find too. -/
theorem resolveSegments_of_resolveStrict {value : Value} (h : resolveStrictSegments path fields = some value)
    (dropEmpty : Bool) : resolveSegments dropEmpty path fields = some value := by
  rw [resolveSegments_of_not_meetsArray (not_meetsArray_of_resolveStrict h), h]

/-- **The readings of a path agree on what is there.** Something is present at a path exactly if a route
exists; with empty results kept, the path is missing exactly if the walk through nested documents is blocked;
and what is found through nested documents alone is found by every reading. So a filter that asks whether
something is there is answered by whether a route exists. -/
theorem path_readings_agree (fields : Fields) (path : FieldPath) :
    ((resolvePresent fields path).isSome = true ↔ ∃ value, Route path.segments fields value) ∧
    (resolve fields path = none ↔ Blocked path.segments fields) ∧
    (∀ value, resolveStrict fields path = some value →
      resolve fields path = some value ∧ resolvePresent fields path = some value) ∧
    ∀ expected, (Filter.present path expected).accepts fields = true ↔
      (expected = true ↔ ∃ value, Route path.segments fields value) := by
  have hpresent : (resolvePresent fields path).isSome = true ↔ ∃ value, Route path.segments fields value :=
    isSome_resolveSegments_iff
  refine ⟨hpresent, ?_, ?_, ?_⟩
  · obtain ⟨head, rest, hsegments⟩ := List.exists_cons_of_ne_nil path.nonempty
    rw [resolve, hsegments]
    exact resolveSegments_eq_none_iff head rest fields
  · intro value hstrict
    exact ⟨resolveSegments_of_resolveStrict hstrict false, resolveSegments_of_resolveStrict hstrict true⟩
  · intro expected
    rw [← hpresent, Filter.accepts, beq_iff_eq, Bool.eq_iff_iff]
    exact iff_comm

/-- A document in a document is found by every reading. In an array no route goes through an array in it or
through a number, so nothing is present there; but the walk through documents is not blocked. -/
theorem path_readings_agree_nested :
    let fields : Fields := [
      ("customer", .document [("name", .string "Ada")]),
      ("items", .array [.array [.document [("price", .int32 1)]], .int32 5, .document []])]
    let name : FieldPath := ⟨["customer", "name"], by decide⟩
    let price : FieldPath := ⟨["items", "price"], by decide⟩
    resolveStrict fields name = some (.string "Ada") ∧
    resolvePresent fields name = some (.string "Ada") ∧
    (¬∃ value, Route price.segments fields value) ∧ ¬Blocked price.segments fields := by
  intro fields name price
  have hstrict : resolveStrict fields name = some (.string "Ada") := rfl
  obtain ⟨-, -, hreadings, -⟩ := path_readings_agree fields name
  obtain ⟨hpresent, hmissing, -, -⟩ := path_readings_agree fields price
  refine ⟨hstrict, (hreadings _ hstrict).2, ?_, ?_⟩
  · rw [← hpresent]
    exact Bool.false_ne_true
  · rw [← hmissing]
    exact nofun

end Docstore

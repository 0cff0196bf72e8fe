import Docstore.Value.Basic

/-!
# `Docstore.Proofs.Value.Parts` — values by their parts

A value is a scalar, or a document or an array of smaller values. `Value.byParts` is induction along
that nesting, and `Value.scalars` lists the scalars inside a value. The scope of code belongs to the
code: it is no part.
-/

namespace Docstore.Value

/-- Is this neither a document nor an array? -/
def isScalar : Value → Bool
  | document _ | array _ => false
  | _ => true

/-- **Induction on nesting.** What holds of scalars, of documents over values of which it holds and of
arrays over such values holds of every value. -/
@[elab_as_elim]
theorem byParts {motive : Value → Prop}
    (scalar : ∀ value : Value, value.isScalar = true → motive value)
    (document : ∀ fields, (∀ entry ∈ fields, motive entry.2) → motive (.document fields))
    (array : ∀ items, (∀ item ∈ items, motive item) → motive (.array items)) (value : Value) :
    motive value := by
  cases value with
  | document fields => exact document fields fun entry hm => byParts scalar document array entry.2
  | array items => exact array items fun item hm => byParts scalar document array item
  | _ => exact scalar _ rfl
termination_by sizeOf value
decreasing_by
  · have hentry : sizeOf entry.2 < sizeOf entry := by
      obtain ⟨name, value⟩ := entry
      simp only [Prod.mk.sizeOf_spec]
      omega
    have hfields := List.sizeOf_lt_of_mem hm
    simp only [Value.document.sizeOf_spec]
    omega
  · have hitems := List.sizeOf_lt_of_mem hm
    simp only [Value.array.sizeOf_spec]
    omega

/-! ## The scalars inside a value -/

mutual

/-- The scalars inside a value, in order. -/
def scalars : Value → List Value
  | .document fields => fieldScalars fields
  | .array items => itemScalars items
  | value => [value]

/-- The scalars inside the fields of a document, in order. -/
def fieldScalars : List (String × Value) → List Value
  | [] => []
  | (_, value) :: rest => scalars value ++ fieldScalars rest

/-- The scalars inside the items of an array, in order. -/
def itemScalars : List Value → List Value
  | [] => []
  | value :: rest => scalars value ++ itemScalars rest

end

theorem scalars_of_isScalar {value : Value} (h : value.isScalar = true) : value.scalars = [value] := by
  cases value <;> first | rfl | exact absurd h (by simp [isScalar])

/-- The scalars inside a field of a document are inside the document. -/
theorem scalars_subset_document {fields : Fields} {entry : String × Value} (h : entry ∈ fields) :
    entry.2.scalars ⊆ (document fields).scalars := by
  show entry.2.scalars ⊆ fieldScalars fields
  induction fields with
  | nil => exact absurd h (by simp)
  | cons first rest ih =>
      obtain ⟨name, value⟩ := first
      rcases List.mem_cons.mp h with rfl | hm
      · exact List.subset_append_left _ _
      · exact List.Subset.trans (ih hm) (List.subset_append_right _ _)

theorem scalars_subset_array {items : List Value} {item : Value} (h : item ∈ items) :
    item.scalars ⊆ (array items).scalars := by
  show item.scalars ⊆ itemScalars items
  induction items with
  | nil => exact absurd h (by simp)
  | cons first rest ih =>
      rcases List.mem_cons.mp h with rfl | hm
      · exact List.subset_append_left _ _
      · exact List.Subset.trans (ih hm) (List.subset_append_right _ _)

/-- The scalars inside an array are those inside its items, in order. -/
theorem scalars_array (items : List Value) : (array items).scalars = items.flatMap scalars := by
  show itemScalars items = items.flatMap scalars
  induction items with
  | nil => rfl
  | cons first rest ih => rw [itemScalars, List.flatMap_cons, ih]

end Docstore.Value

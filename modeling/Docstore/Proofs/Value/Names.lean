import Docstore.Proofs.Entries
import Docstore.Value.Basic

/-!
# `Docstore.Proofs.Value.Names` — values in which no document names a field twice

A list of entries may name something twice, a document does not: it is built by writing under names.
`Value.namesOnce` says so of all documents inside a value. The scope of code is not looked into.
-/

namespace Docstore.Value

mutual

/-- Does no document inside a value name a field twice? -/
def namesOnce : Value → Bool
  | .document fields => decide (Entries.names fields).Nodup && fieldsNameOnce fields
  | .array items => itemsNameOnce items
  | _ => true

/-- Does no document inside the fields of a document name a field twice? -/
def fieldsNameOnce : List (String × Value) → Bool
  | [] => true
  | (_, value) :: rest => namesOnce value && fieldsNameOnce rest

/-- Does no document inside the items of an array name a field twice? -/
def itemsNameOnce : List Value → Bool
  | [] => true
  | value :: rest => namesOnce value && itemsNameOnce rest

end

variable {fields : Fields} {name : String} {value : Value}

theorem fieldsNameOnce_iff :
    fieldsNameOnce fields = true ↔ ∀ entry ∈ fields, entry.2.namesOnce = true := by
  induction fields with
  | nil => simp [fieldsNameOnce]
  | cons entry rest ih =>
      obtain ⟨name, value⟩ := entry
      simp [fieldsNameOnce, ih]

/-- A document names nothing twice exactly if its own names differ and its values name nothing twice. -/
theorem namesOnce_document_iff : (document fields).namesOnce = true ↔
    (Entries.names fields).Nodup ∧ ∀ entry ∈ fields, entry.2.namesOnce = true := by
  show (decide _ && fieldsNameOnce fields) = true ↔ _
  rw [Bool.and_eq_true, decide_eq_true_eq, fieldsNameOnce_iff]

/-- What a field of a document holds names nothing twice if the document does not. -/
theorem namesOnce_of_get? (h : (document fields).namesOnce = true)
    (hvalue : Entries.get? name fields = some value) : value.namesOnce = true :=
  (namesOnce_document_iff.mp h).2 (name, value) (Entries.mem_of_get? hvalue)

/-- A write of a value that names nothing twice keeps a document from naming anything twice. -/
theorem namesOnce_insert (h : (document fields).namesOnce = true) (hvalue : value.namesOnce = true) :
    (document (Entries.insert name value fields)).namesOnce = true := by
  obtain ⟨hnames, hparts⟩ := namesOnce_document_iff.mp h
  refine namesOnce_document_iff.mpr ⟨Entries.nodup_names_insert value hnames, ?_⟩
  intro entry hm
  rcases Entries.mem_insert hm with hnew | hold
  · rwa [hnew]
  · exact hparts entry hold

theorem namesOnce_erase (h : (document fields).namesOnce = true) :
    (document (Entries.erase name fields)).namesOnce = true := by
  obtain ⟨hnames, hparts⟩ := namesOnce_document_iff.mp h
  have hsub := Entries.erase_sublist name fields
  exact namesOnce_document_iff.mpr
    ⟨hnames.sublist (hsub.map _), fun entry hm => hparts entry (hsub.subset hm)⟩

end Docstore.Value

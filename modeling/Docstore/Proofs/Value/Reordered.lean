import Docstore.Proofs.Entries
import Docstore.Value.Basic

/-!
# `Docstore.Proofs.Value.Reordered` — documents up to the order of their fields

`Reordered` relates documents that have the same fields in possibly another order, also in the documents that
their fields hold; arrays and all other values have to be the same. It is built like a permutation of lists,
with one more rule for a field that holds a document.

Where no name stands twice, documents that are reordered read the same under every name up to order
(`Reordered.held`), and the same assignment to both leaves them so (`Reordered.assign`).
-/

namespace Docstore

/-- Two documents that differ at most in the order of their fields, or of the fields of documents under
these. -/
inductive Reordered : Fields → Fields → Prop where
  | nil : Reordered [] []
  | cons {a b : Fields} (entry : String × Value) (h : Reordered a b) : Reordered (entry :: a) (entry :: b)
  | inner {a b x y : Fields} (name : String) (hinner : Reordered x y) (h : Reordered a b) :
      Reordered ((name, .document x) :: a) ((name, .document y) :: b)
  | swap (first second : String × Value) (rest : Fields) :
      Reordered (first :: second :: rest) (second :: first :: rest)
  | trans {a b c : Fields} (hab : Reordered a b) (hbc : Reordered b c) : Reordered a c

namespace Reordered

variable {a b : Fields}

theorem refl (fields : Fields) : Reordered fields fields := by
  induction fields with
  | nil => exact .nil
  | cons entry rest ih => exact .cons entry ih

/-- The same fields in another order. -/
theorem of_perm (h : a.Perm b) : Reordered a b := by
  induction h with
  | nil => exact .nil
  | cons entry _ ih => exact .cons entry ih
  | swap first second rest => exact .swap second first rest
  | trans _ _ ihab ihbc => exact .trans ihab ihbc

/-- Both documents have the same names, up to their order. -/
theorem names_perm (h : Reordered a b) : (Entries.names a).Perm (Entries.names b) := by
  induction h with
  | nil => exact .nil
  | cons entry _ ih => exact ih.cons entry.1
  | inner name _ _ _ ih => exact ih.cons name
  | swap first second rest => exact .swap second.1 first.1 _
  | trans _ _ ihab ihbc => exact ihab.trans ihbc

theorem nodup_names_iff (h : Reordered a b) : (Entries.names a).Nodup ↔ (Entries.names b).Nodup :=
  h.names_perm.nodup_iff

/-! ## What a field holds -/

/-- What two fields hold is the same, or two documents that differ at most in the order of their fields. -/
inductive Held : Option Value → Option Value → Prop where
  | same (held : Option Value) : Held held held
  | document {x y : Fields} (h : Reordered x y) : Held (some (.document x)) (some (.document y))

theorem Held.trans {u v w : Option Value} (huv : Held u v) (hvw : Held v w) : Held u w := by
  cases huv with
  | same => exact hvw
  | document hxy =>
      cases hvw with
      | same => exact .document hxy
      | document hyz => exact .document (hxy.trans hyz)

/-- **Reordered documents read the same under every name**, up to order, where no name stands twice. -/
theorem held (h : Reordered a b) (hnames : (Entries.names a).Nodup) (name : String) :
    Held (Entries.get? name a) (Entries.get? name b) := by
  induction h with
  | nil => exact .same none
  | cons entry _ ih =>
      obtain ⟨key, value⟩ := entry
      have hrest := ih (List.nodup_cons.mp hnames).2
      by_cases hkey : key = name
      · simpa [Entries.get?, hkey] using Held.same (some value)
      · simpa [Entries.get?, hkey] using hrest
  | inner key hinner _ _ ih =>
      have hrest := ih (List.nodup_cons.mp hnames).2
      by_cases hkey : key = name
      · simpa [Entries.get?, hkey] using Held.document hinner
      · simpa [Entries.get?, hkey] using hrest
  | swap first second rest =>
      -- only here could a name that stands twice show another value
      have hne : first.1 ≠ second.1 := fun heq => (List.nodup_cons.mp hnames).1 (by simp [heq])
      have hsame : Entries.get? name (first :: second :: rest) =
          Entries.get? name (second :: first :: rest) := by
        obtain ⟨key, value⟩ := first
        obtain ⟨key', value'⟩ := second
        by_cases hkey : key = name
        · have hkey' : key' ≠ name := fun heq => hne (hkey.trans heq.symm)
          simp [Entries.get?, hkey, hkey']
        · simp [Entries.get?, hkey]
      rw [hsame]
      exact .same _
  | trans hab _ ihab ihbc => exact (ihab hnames).trans (ihbc (hab.nodup_names_iff.mp hnames))

/-! ## Assigning -/

/-- An erasure from documents that differ in order leaves documents that differ in order. -/
theorem erase (h : Reordered a b) (hnames : (Entries.names a).Nodup) (name : String) :
    Reordered (Entries.erase name a) (Entries.erase name b) := by
  induction h with
  | nil => exact .nil
  | cons entry h ih =>
      obtain ⟨key, value⟩ := entry
      have hrest := ih (List.nodup_cons.mp hnames).2
      by_cases hkey : key = name
      · simpa [Entries.erase, hkey] using h
      · simpa [Entries.erase, hkey] using hrest.cons (key, value)
  | inner key hinner h _ ih =>
      have hrest := ih (List.nodup_cons.mp hnames).2
      by_cases hkey : key = name
      · simpa [Entries.erase, hkey] using h
      · simpa [Entries.erase, hkey] using Reordered.inner key hinner hrest
  | swap first second rest =>
      -- only one of the two fields that change places can have the name
      have hne : first.1 ≠ second.1 := fun heq => (List.nodup_cons.mp hnames).1 (by simp [heq])
      obtain ⟨key, value⟩ := first
      obtain ⟨key', value'⟩ := second
      by_cases hkey : key = name
      · have hkey' : key' ≠ name := fun heq => hne (hkey.trans heq.symm)
        simpa [Entries.erase, hkey, hkey'] using refl ((key', value') :: rest)
      · by_cases hkey' : key' = name
        · simpa [Entries.erase, hkey, hkey'] using refl ((key, value) :: rest)
        · simpa [Entries.erase, hkey, hkey'] using
            swap (key, value) (key', value') (Entries.erase name rest)
  | trans hab _ ihab ihbc => exact (ihab hnames).trans (ihbc (hab.nodup_names_iff.mp hnames))

/-- **Assignments to reordered documents leave them reordered**, if what is assigned is the same up to
order. -/
theorem assign {u v : Option Value} (hheld : Held u v) (h : Reordered a b)
    (hnames : (Entries.names a).Nodup) (name : String) :
    Reordered (Entries.assign name u a) (Entries.assign name v b) := by
  have hothers : Reordered (Entries.erase name a) (Entries.erase name b) := h.erase hnames name
  have hfront : Reordered ((u.map (name, ·)).toList ++ Entries.erase name a)
      ((v.map (name, ·)).toList ++ Entries.erase name b) := by
    cases hheld with
    | same =>
        cases u with
        | none => exact hothers
        | some value => exact hothers.cons (name, value)
    | document hxy => exact .inner name hxy hothers
  exact ((of_perm (Entries.assign_perm name u a)).trans hfront).trans
    (of_perm (Entries.assign_perm name v b).symm)

end Reordered
end Docstore

import Docstore.Proofs.Pipeline.Projection

/-!
# `Docstore.Proofs.Pipeline.Hidden` — changes that a projection does not show

`ChangedAt` says that two values differ in one field at most, which may lie inside any number of documents and
arrays; its path names the fields on the way and leaves the positions in arrays out. Along every path apart
from it the two are alike (`ChangedAt.alike`), so a projection that copies only such paths makes one and the
same document of both.
-/

namespace Docstore

variable {name : String} {path other : List String} {a b fields : Fields} {value changed : Value}

/-! ## Changes -/

/-- The second value is the first with one field changed: added, removed or replaced. The path leads to the
field through documents and arrays; an item of an array adds nothing to it. -/
inductive ChangedAt : List String → Value → Value → Prop where
  | field {name : String} {a b : Fields}
      (hbeside : ∀ other, other ≠ name → Entries.get? other b = Entries.get? other a) :
      ChangedAt [name] (.document a) (.document b)
  | inner {name : String} {path : List String} {a b : Fields} {value changed : Value}
      (hbeside : ∀ other, other ≠ name → Entries.get? other b = Entries.get? other a)
      (hvalue : Entries.get? name a = some value) (hchanged : Entries.get? name b = some changed)
      (h : ChangedAt path value changed) : ChangedAt (name :: path) (.document a) (.document b)
  | item {path : List String} {value changed : Value} (before after : List Value)
      (h : ChangedAt path value changed) :
      ChangedAt path (.array (before ++ value :: after)) (.array (before ++ changed :: after))

namespace ChangedAt

/-- A field is added or replaced. -/
theorem insert (name : String) (value : Value) (fields : Fields) :
    ChangedAt [name] (.document fields) (.document (Entries.insert name value fields)) :=
  .field fun _ hother => Entries.get?_insert_of_ne hother value fields

/-- A field is removed. -/
theorem erase (name : String) (fields : Fields) :
    ChangedAt [name] (.document fields) (.document (Entries.erase name fields)) :=
  .field fun _ hother => Entries.get?_erase_of_ne hother

/-- What a field holds is changed. -/
theorem insert_inner (hvalue : Entries.get? name fields = some value) (h : ChangedAt path value changed) :
    ChangedAt (name :: path) (.document fields) (.document (Entries.insert name changed fields)) :=
  .inner (fun _ hother => Entries.get?_insert_of_ne hother changed fields) hvalue
    (Entries.get?_insert_self name changed fields) h

end ChangedAt

/-! ## Along other paths -/

/-- Values that hold documents in the same places are both documents, or neither is. -/
theorem Inside.Alike.forall₂_fields? {related : Fields → Fields → Prop}
    (h : Inside.Alike related value.inside changed.inside) :
    List.Forall₂ related value.fields?.toList changed.fields?.toList := by
  cases value <;> cases changed <;> cases h
  case document.document.one h => exact .cons h .nil
  all_goals exact .nil

/-- **A change shows along no path apart from its own**: there the two values hold documents in the same
places, and these are alike. -/
theorem ChangedAt.alike (h : ChangedAt path value changed) (hapart : Apart other path) :
    Inside.Alike (AlikeAlong other) value.inside changed.inside := by
  induction h generalizing other with
  | @field name a b hbeside =>
      -- the change is to the field itself, and the path begins with another
      obtain ⟨head, rest, rfl⟩ := List.exists_cons_of_ne_nil hapart.ne_nil
      have hne : head ≠ name := by
        rintro rfl
        exact hapart.2 (by simp)
      exact .one (AlikeAlong.of_get? (hbeside head hne).symm rest)
  | @inner name path a b value changed hbeside hvalue hchanged _ ih =>
      obtain ⟨head, rest, rfl⟩ := List.exists_cons_of_ne_nil hapart.ne_nil
      refine .one ?_
      -- the change lies inside a document: the path leads past it or into it
      rcases hapart.cons_cases with hne | ⟨rfl, hgo, -, hapart⟩
      · exact AlikeAlong.of_get? (hbeside head hne).symm rest
      · obtain ⟨next, rest, rfl⟩ := List.exists_cons_of_ne_nil hgo
        rw [AlikeAlong.cons_iff, inside_of_get? hvalue, inside_of_get? hchanged]
        exact ih hapart
  | @item path value changed before after _ ih =>
      have hrefl : ∀ items : List Value, List.Forall₂ (AlikeAlong other)
          (items.filterMap Value.fields?) (items.filterMap Value.fields?) :=
        fun items => List.forall₂_same.mpr fun inner _ => AlikeAlong.refl other inner
      have hitem := (ih hapart).forall₂_fields?
      -- the change lies inside an item: the documents before and after it are the same
      have hsplit : ∀ item : Value, (before ++ item :: after).filterMap Value.fields? =
          before.filterMap Value.fields? ++ (item.fields?.toList ++ after.filterMap Value.fields?) := by
        intro item
        rw [List.filterMap_append, List.filterMap_cons]
        cases item.fields? <;> rfl
      show Inside.Alike _ (.many _) (.many _)
      rw [hsplit, hsplit]
      exact .many (List.rel_append (hrefl before) (List.rel_append hitem (hrefl after)))

/-! ## Projections -/

namespace Projection

variable {projection : Projection} {fields : List (FieldPath × ProjectedField)} {document after : Fields}

/-- A new document does not tell documents apart that are alike along the copied paths and give the same
computed values. -/
theorem collectAll_congr
    (hkept : ∀ path, (path, .kept) ∈ fields → AlikeAlong path.segments document after)
    (hcomputed : ∀ path expression, (path, .computed expression) ∈ fields →
      expression.eval document = expression.eval after) (out : Fields) :
    collectAll document out fields = collectAll after out fields := by
  refine List.foldl_ext _ _ _ ?_
  rintro out ⟨path, field⟩ hm
  cases field with
  | kept => exact (hkept path hm).copy out
  | removed => rfl
  | computed expression =>
      show collect document out path (.computed expression) = collect after out path (.computed expression)
      rw [collect, collect, hcomputed path expression hm]

/-- **A projection that only keeps fields shows nothing else.** Let a projection make a new document, accepted
or not, and compute nothing. Let one field of a document be added, removed or replaced, at any depth through
documents and arrays. If its path, without positions in arrays, is neither the beginning nor a continuation of
a kept one, the projection makes the same document as before. -/
theorem hidden_change_not_shown {path : List String} (hmode : projection.keepsOthers = false)
    (hcopies : ∀ path expression, (path, .computed expression) ∉ projection.fields)
    (h : ChangedAt path (.document document) (.document after))
    (hhidden : ∀ kept, (kept, .kept) ∈ projection.fields → Apart kept.segments path) :
    projection.apply document = projection.apply after := by
  rw [apply_eq_collectAll hmode, apply_eq_collectAll hmode]
  refine collectAll_congr ?_ ?_ []
  · intro kept hkept
    have halike : Inside.Alike (AlikeAlong kept.segments) (.one document) (.one after) :=
      h.alike (hhidden kept hkept)
    cases halike with
    | one halike => exact halike
  · intro path expression hm
    exact absurd hm (hcopies path expression)

/-- The price of one item is replaced, or removed, where only the names of items are kept. -/
theorem hidden_change_not_shown_price :
    let projection : Projection :=
      ⟨false, [(⟨["_id"], by simp⟩, .removed), (⟨["items", "name"], by simp⟩, .kept)]⟩
    let item (price : Fields) : Value := .document (("name", .string "ink") :: price)
    let document (price : Fields) : Fields :=
      [("_id", .int32 7), ("items", .array [.int32 5, item price, .document [("price", .int32 1)]])]
    let priced := document [("price", .int32 3)]
    ChangedAt ["items", "price"] (.document priced) (.document (document [("price", .int32 9)])) ∧
      ChangedAt ["items", "price"] (.document priced) (.document (document [])) ∧
      projection.apply priced = projection.apply (document [("price", .int32 9)]) ∧
      projection.apply priced = projection.apply (document []) ∧
      projection.apply priced = [("items", .array [.document [("name", .string "ink")], .document []])] := by
  intro projection item document priced
  have hinside : ∀ price, ChangedAt ["price"] (item [("price", .int32 3)]) (item price) →
      ChangedAt ["items", "price"] (.document priced) (.document (document price)) :=
    fun price h => ChangedAt.insert_inner rfl (.item [.int32 5] [.document [("price", .int32 1)]] h)
  have hreplaced := hinside _ (ChangedAt.insert "price" (.int32 9) _)
  have hremoved := hinside _ (ChangedAt.erase "price" _)
  have hcopies : ∀ path expression, (path, .computed expression) ∉ projection.fields := by
    simp [projection]
  have hhidden : ∀ kept, (kept, ProjectedField.kept) ∈ projection.fields →
      Apart kept.segments ["items", "price"] := by
    simp [projection, Apart]
  exact ⟨hreplaced, hremoved, hidden_change_not_shown rfl hcopies hreplaced hhidden,
    hidden_change_not_shown rfl hcopies hremoved hhidden, rfl⟩

end Projection
end Docstore

import Docstore.Proofs.Value.Order
import Mathlib.Data.List.Forall2

/-!
# `Docstore.Proofs.Value.Facing` — two values side by side

Two values of the same shape have scalars at the same places: documents with the same names in the same
order, arrays of the same length, and so on inward. `Value.facing` lists those pairs. A relation that goes
through documents and arrays part by part (`Structural`) holds of two values exactly if they have the same
shape and it holds of every pair of scalars that face each other.

## Contents
- **Facing scalars.** `facing`; `facingIn_of_mem_facing` says where its pairs come from.
- **Relations that go part by part.** `Structural.iff_facing`, and `Structural.iff_iff_facing` for where
  two such relations agree.
-/

namespace Docstore.Value

/-! ## Facing scalars -/

mutual

/-- The pairs of scalars at the same places of two values, if the values have the same shape. -/
def facing : Value → Value → Option (List (Value × Value))
  | .document x, .document y => facingFields x y
  | .array x, .array y => facingItems x y
  | a, b => if a.isScalar && b.isScalar then some [(a, b)] else none

/-- The pairs of scalars at the same places of two documents. -/
def facingFields : List (String × Value) → List (String × Value) → Option (List (Value × Value))
  | [], [] => some []
  | (name, value) :: rest, (name', value') :: rest' =>
    if name = name' then
      (facing value value').bind fun here => (facingFields rest rest').map (here ++ ·)
    else none
  | _, _ => none

/-- The pairs of scalars at the same places of two arrays. -/
def facingItems : List Value → List Value → Option (List (Value × Value))
  | [], [] => some []
  | value :: rest, value' :: rest' =>
    (facing value value').bind fun here => (facingItems rest rest').map (here ++ ·)
  | _, _ => none

end

theorem facing_of_isScalar {a b : Value} (ha : a.isScalar = true) (hb : b.isScalar = true) :
    facing a b = some [(a, b)] := by
  unfold facing
  split
  · exact absurd ha (by simp [isScalar])
  · exact absurd ha (by simp [isScalar])
  · rw [ha, hb]; rfl

/-- A scalar faces a scalar or nothing. -/
theorem isScalar_of_facing {a b : Value} {pairs : List (Value × Value)}
    (h : facing a b = some pairs) : a.isScalar = b.isScalar := by
  unfold facing at h
  split at h
  · rfl
  · rfl
  · split at h
    · next hscalar =>
        rw [Bool.and_eq_true] at hscalar
        rw [hscalar.1, hscalar.2]
    · exact absurd h (by simp)

/-- Two documents face each other if their first names agree, and if the values there and the rests face each
other. -/
theorem facingFields_cons_iff {entry other : String × Value} {rest others : Fields}
    {pairs : List (Value × Value)} :
    facingFields (entry :: rest) (other :: others) = some pairs ↔
      entry.1 = other.1 ∧ ∃ here later, facing entry.2 other.2 = some here ∧
        facingFields rest others = some later ∧ pairs = here ++ later := by
  have hstep : facingFields (entry :: rest) (other :: others) = if entry.1 = other.1 then
      (facing entry.2 other.2).bind fun here => (facingFields rest others).map (here ++ ·)
    else none := rfl
  rw [hstep]
  constructor
  · intro h
    split at h
    · next hname =>
        obtain ⟨here, hhere, hmap⟩ := Option.bind_eq_some_iff.mp h
        obtain ⟨later, hlater, rfl⟩ := Option.map_eq_some_iff.mp hmap
        exact ⟨hname, here, later, hhere, hlater, rfl⟩
    · exact nomatch h
  · rintro ⟨hname, here, later, hhere, hlater, rfl⟩
    rw [if_pos hname, hhere, Option.bind_some, hlater]
    rfl

/-- Two arrays face each other if their first items and their rests do. -/
theorem facingItems_cons_iff {item other : Value} {rest others : List Value}
    {pairs : List (Value × Value)} :
    facingItems (item :: rest) (other :: others) = some pairs ↔
      ∃ here later, facing item other = some here ∧ facingItems rest others = some later ∧
        pairs = here ++ later := by
  have hstep : facingItems (item :: rest) (other :: others) =
      (facing item other).bind fun here => (facingItems rest others).map (here ++ ·) := rfl
  rw [hstep]
  constructor
  · intro h
    obtain ⟨here, hhere, hmap⟩ := Option.bind_eq_some_iff.mp h
    obtain ⟨later, hlater, rfl⟩ := Option.map_eq_some_iff.mp hmap
    exact ⟨here, later, hhere, hlater, rfl⟩
  · rintro ⟨here, later, hhere, hlater, rfl⟩
    rw [hhere, Option.bind_some, hlater]
    rfl

/-- The pair consists of a scalar from each of two lists. -/
structure FacingIn (xs ys : List Value) (p : Value × Value) : Prop where
  left_isScalar : p.1.isScalar = true
  right_isScalar : p.2.isScalar = true
  left_mem : p.1 ∈ xs
  right_mem : p.2 ∈ ys

theorem FacingIn.mono {xs ys xs' ys' : List Value} {p : Value × Value} (h : FacingIn xs ys p)
    (hxs : xs ⊆ xs') (hys : ys ⊆ ys') : FacingIn xs' ys' p :=
  ⟨h.left_isScalar, h.right_isScalar, hxs h.left_mem, hys h.right_mem⟩

/-- The pairs of two documents come from the scalars inside them, if those of the values do. -/
theorem facingIn_of_mem_facingFields {fields : Fields}
    (ih : ∀ entry ∈ fields, ∀ b pairs, facing entry.2 b = some pairs →
      ∀ p ∈ pairs, FacingIn entry.2.scalars b.scalars p) {others : Fields}
    {pairs : List (Value × Value)} (h : facingFields fields others = some pairs) :
    ∀ p ∈ pairs, FacingIn (fieldScalars fields) (fieldScalars others) p := by
  induction fields generalizing others pairs with
  | nil =>
      cases others with
      | nil => obtain rfl := Option.some.inj h; simp
      | cons other others => exact nomatch h
  | cons entry rest ihrest =>
      cases others with
      | nil => exact nomatch h
      | cons other others =>
          obtain ⟨-, here, later, hhere, hlater, rfl⟩ := facingFields_cons_iff.mp h
          intro p hp
          rcases List.mem_append.mp hp with hp | hp
          · exact (ih entry (List.mem_cons_self ..) other.2 here hhere p hp).mono
              (List.subset_append_left _ _) (List.subset_append_left _ _)
          · exact (ihrest (fun e hm => ih e (List.mem_cons_of_mem _ hm)) hlater p hp).mono
              (List.subset_append_right _ _) (List.subset_append_right _ _)

theorem facingIn_of_mem_facingItems {items : List Value}
    (ih : ∀ item ∈ items, ∀ b pairs, facing item b = some pairs →
      ∀ p ∈ pairs, FacingIn item.scalars b.scalars p) {others : List Value}
    {pairs : List (Value × Value)} (h : facingItems items others = some pairs) :
    ∀ p ∈ pairs, FacingIn (itemScalars items) (itemScalars others) p := by
  induction items generalizing others pairs with
  | nil =>
      cases others with
      | nil => obtain rfl := Option.some.inj h; simp
      | cons other others => exact nomatch h
  | cons item rest ihrest =>
      cases others with
      | nil => exact nomatch h
      | cons other others =>
          obtain ⟨here, later, hhere, hlater, rfl⟩ := facingItems_cons_iff.mp h
          intro p hp
          rcases List.mem_append.mp hp with hp | hp
          · exact (ih item (List.mem_cons_self ..) other here hhere p hp).mono
              (List.subset_append_left _ _) (List.subset_append_left _ _)
          · exact (ihrest (fun e hm => ih e (List.mem_cons_of_mem _ hm)) hlater p hp).mono
              (List.subset_append_right _ _) (List.subset_append_right _ _)

/-- **Only scalars face each other,** and they are scalars of the two values. -/
theorem facingIn_of_mem_facing {a b : Value} {pairs : List (Value × Value)}
    (h : facing a b = some pairs) : ∀ p ∈ pairs, FacingIn a.scalars b.scalars p := by
  induction a using byParts generalizing b pairs with
  | scalar a ha =>
      have hb := isScalar_of_facing h ▸ ha
      rw [facing_of_isScalar ha hb] at h
      obtain rfl := Option.some.inj h
      intro p hp
      obtain rfl := List.mem_singleton.mp hp
      exact ⟨ha, hb, by simp [scalars_of_isScalar ha], by simp [scalars_of_isScalar hb]⟩
  | document fields ih =>
      cases b with
      | document others => exact facingIn_of_mem_facingFields (fun e hm b pairs => ih e hm) h
      | _ => exact nomatch h
  | array items ih =>
      cases b with
      | array others => exact facingIn_of_mem_facingItems (fun e hm b pairs => ih e hm) h
      | _ => exact nomatch h

/-! ## Relations that go part by part -/

/-- A relation on values that relates documents field by field under the same names, arrays item by
item, and nothing else with either of them. -/
structure Structural (r : Value → Value → Prop) : Prop where
  document_iff : ∀ x y, r (.document x) (.document y) ↔
    List.Forall₂ (fun e f => e.1 = f.1 ∧ r e.2 f.2) x y
  array_iff : ∀ x y, r (.array x) (.array y) ↔ List.Forall₂ r x y
  same_class : ∀ {a b}, r a b → a.typeClass = b.typeClass

/-- A structural relation holds of all fields if it holds of all pairs, given that it does so of values. -/
theorem exists_facingFields_iff {r : Value → Value → Prop} {fields : Fields}
    (ih : ∀ entry ∈ fields, ∀ b, r entry.2 b ↔
      ∃ pairs, facing entry.2 b = some pairs ∧ ∀ p ∈ pairs, r p.1 p.2) (others : Fields) :
    List.Forall₂ (fun e f => e.1 = f.1 ∧ r e.2 f.2) fields others ↔
      ∃ pairs, facingFields fields others = some pairs ∧ ∀ p ∈ pairs, r p.1 p.2 := by
  induction fields generalizing others with
  | nil =>
      cases others with
      | nil => exact ⟨fun _ => ⟨[], rfl, by simp⟩, fun _ => .nil⟩
      | cons other others => exact ⟨fun h => (nomatch h), fun ⟨_, h, _⟩ => (nomatch h)⟩
  | cons entry rest ihrest =>
      cases others with
      | nil => exact ⟨fun h => (nomatch h), fun ⟨_, h, _⟩ => (nomatch h)⟩
      | cons other others =>
          have hrest := ihrest (fun e hm => ih e (List.mem_cons_of_mem _ hm)) others
          have hvalue := ih entry (List.mem_cons_self ..) other.2
          constructor
          · rintro (_ | ⟨⟨hname, hhead⟩, htail⟩)
            -- the pairs of the first values and those of the rests, one after the other
            obtain ⟨here, hhere, hr⟩ := hvalue.mp hhead
            obtain ⟨later, hlater, hr'⟩ := hrest.mp htail
            refine ⟨here ++ later, facingFields_cons_iff.mpr ⟨hname, here, later, hhere, hlater, rfl⟩, ?_⟩
            exact fun p hp => (List.mem_append.mp hp).elim (hr p) (hr' p)
          · rintro ⟨pairs, hpairs, hr⟩
            obtain ⟨hname, here, later, hhere, hlater, rfl⟩ := facingFields_cons_iff.mp hpairs
            refine .cons ⟨hname, hvalue.mpr ⟨here, hhere, ?_⟩⟩ (hrest.mpr ⟨later, hlater, ?_⟩)
            · exact fun p hp => hr p (List.mem_append_left _ hp)
            · exact fun p hp => hr p (List.mem_append_right _ hp)

theorem exists_facingItems_iff {r : Value → Value → Prop} {items : List Value}
    (ih : ∀ item ∈ items, ∀ b, r item b ↔
      ∃ pairs, facing item b = some pairs ∧ ∀ p ∈ pairs, r p.1 p.2) (others : List Value) :
    List.Forall₂ r items others ↔
      ∃ pairs, facingItems items others = some pairs ∧ ∀ p ∈ pairs, r p.1 p.2 := by
  induction items generalizing others with
  | nil =>
      cases others with
      | nil => exact ⟨fun _ => ⟨[], rfl, by simp⟩, fun _ => .nil⟩
      | cons other others => exact ⟨fun h => (nomatch h), fun ⟨_, h, _⟩ => (nomatch h)⟩
  | cons item rest ihrest =>
      cases others with
      | nil => exact ⟨fun h => (nomatch h), fun ⟨_, h, _⟩ => (nomatch h)⟩
      | cons other others =>
          have hrest := ihrest (fun e hm => ih e (List.mem_cons_of_mem _ hm)) others
          have hvalue := ih item (List.mem_cons_self ..) other
          constructor
          · rintro (_ | ⟨hhead, htail⟩)
            obtain ⟨here, hhere, hr⟩ := hvalue.mp hhead
            obtain ⟨later, hlater, hr'⟩ := hrest.mp htail
            refine ⟨here ++ later, facingItems_cons_iff.mpr ⟨here, later, hhere, hlater, rfl⟩, ?_⟩
            exact fun p hp => (List.mem_append.mp hp).elim (hr p) (hr' p)
          · rintro ⟨pairs, hpairs, hr⟩
            obtain ⟨here, later, hhere, hlater, rfl⟩ := facingItems_cons_iff.mp hpairs
            refine .cons (hvalue.mpr ⟨here, hhere, ?_⟩) (hrest.mpr ⟨later, hlater, ?_⟩)
            · exact fun p hp => hr p (List.mem_append_left _ hp)
            · exact fun p hp => hr p (List.mem_append_right _ hp)

namespace Structural

variable {r s : Value → Value → Prop}

/-- **A relation that goes part by part is one of facing scalars.** -/
theorem iff_facing (h : Structural r) (a b : Value) :
    r a b ↔ ∃ pairs, facing a b = some pairs ∧ ∀ p ∈ pairs, r p.1 p.2 := by
  induction a using byParts generalizing b with
  | scalar a ha =>
      -- a value of the class of a scalar is a scalar, so the two are the only pair
      constructor
      · intro hr
        have hb := isScalar_of_class_eq (h.same_class hr) ha
        exact ⟨[(a, b)], facing_of_isScalar ha hb, by simpa using hr⟩
      · rintro ⟨pairs, hpairs, hr⟩
        rw [facing_of_isScalar ha (isScalar_of_facing hpairs ▸ ha)] at hpairs
        obtain rfl := Option.some.inj hpairs
        exact hr (a, b) (List.mem_singleton.mpr rfl)
  | document fields ih =>
      constructor
      · intro hr
        obtain ⟨others, rfl⟩ := eq_document (h.same_class hr).symm
        exact (exists_facingFields_iff ih others).mp ((h.document_iff _ _).mp hr)
      · rintro ⟨pairs, hpairs, hr⟩
        cases b with
        | document others =>
            exact (h.document_iff _ _).mpr ((exists_facingFields_iff ih others).mpr ⟨pairs, hpairs, hr⟩)
        | _ => exact nomatch hpairs
  | array items ih =>
      constructor
      · intro hr
        obtain ⟨others, rfl⟩ := eq_array (h.same_class hr).symm
        exact (exists_facingItems_iff ih others).mp ((h.array_iff _ _).mp hr)
      · rintro ⟨pairs, hpairs, hr⟩
        cases b with
        | array others =>
            exact (h.array_iff _ _).mpr ((exists_facingItems_iff ih others).mpr ⟨pairs, hpairs, hr⟩)
        | _ => exact nomatch hpairs

/-- **Where two relations that go part by part agree.** They differ on two values exactly if one of them
holds of all facing scalars and the other one does not. -/
theorem iff_iff_facing (hr : Structural r) (hs : Structural s) (a b : Value) :
    (r a b ↔ s a b) ↔ ∀ pairs, facing a b = some pairs →
      ¬((∀ p ∈ pairs, r p.1 p.2) ∧ ∃ p ∈ pairs, ¬s p.1 p.2) ∧
      ¬((∀ p ∈ pairs, s p.1 p.2) ∧ ∃ p ∈ pairs, ¬r p.1 p.2) := by
  rw [hr.iff_facing, hs.iff_facing]
  cases hf : facing a b with
  | none =>
      refine ⟨fun _ pairs h => (nomatch h), fun _ => ⟨?_, ?_⟩⟩
      · exact fun ⟨_, h, _⟩ => (nomatch h)
      · exact fun ⟨_, h, _⟩ => (nomatch h)
  | some pairs =>
      have hone : ∀ t : Value → Value → Prop,
          (∃ found, some pairs = some found ∧ ∀ p ∈ found, t p.1 p.2) ↔ ∀ p ∈ pairs, t p.1 p.2 := by
        intro t
        constructor
        · rintro ⟨found, heq, h⟩
          exact Option.some.inj heq ▸ h
        · exact fun h => ⟨pairs, rfl, h⟩
      rw [hone, hone]
      -- one relation of all pairs and not the other one: then the other fails of some pair
      constructor
      · rintro hiff found heq
        obtain rfl := Option.some.inj heq
        constructor
        · rintro ⟨hall, p, hp, hnot⟩
          exact hnot (hiff.mp hall p hp)
        · rintro ⟨hall, p, hp, hnot⟩
          exact hnot (hiff.mpr hall p hp)
      · intro h
        obtain ⟨hrs, hsr⟩ := h pairs rfl
        constructor
        · intro hall p hp
          exact Classical.byContradiction fun hnot => hrs ⟨hall, p, hp, hnot⟩
        · intro hall p hp
          exact Classical.byContradiction fun hnot => hsr ⟨hall, p, hp, hnot⟩

end Structural

end Docstore.Value

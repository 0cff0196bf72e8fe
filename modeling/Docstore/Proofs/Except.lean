/-!
# `Docstore.Proofs.Except` — results that may be errors

What a result that is put together from others comes to, and how two results that are put together in the same
way compare. `SameUnless` says of two attempts at one thing that they come to the same, unless the first one
fails for lack of something that the second one may have.

## Contents
- **One result.** When `bind`, `map` and `mapError` come to a value or to an error.
- **Two results.** `SameUnless`, kept by everything that puts results together.
-/

namespace Docstore

/-! ## One result -/

section OneResult

variable {α β ε ε' : Type} {error : ε}

/-- A sequence of two steps succeeds exactly if both do. -/
theorem bind_eq_ok_iff {result : Except ε α} {f : α → Except ε β} {value : β} :
    (result >>= f) = .ok value ↔ ∃ inner, result = .ok inner ∧ f inner = .ok value := by
  cases result with
  | ok inner =>
      show f inner = .ok value ↔ _
      simp
  | error cause =>
      show Except.error cause = Except.ok value ↔ _
      simp

/-- What is read in front of a list stands in front of what the list is read as. -/
theorem cons_eq_ok {result : Except ε (List α)} {first : α} {all : List α}
    (h : (do pure (first :: (← result))) = .ok all) :
    ∃ others, all = first :: others ∧ result = .ok others := by
  obtain ⟨others, hothers, hcons⟩ := bind_eq_ok_iff.mp h
  exact ⟨others, (Except.ok.inj hcons).symm, hothers⟩

theorem mapError_eq_ok_iff {result : Except ε α} {f : ε → ε'} {value : α} :
    result.mapError f = .ok value ↔ result = .ok value := by
  cases result with
  | ok inner =>
      show Except.ok inner = Except.ok value ↔ _
      simp
  | error cause =>
      show Except.error (f cause) = Except.ok value ↔ _
      simp

/-- An error in another wording comes from one in the first. -/
theorem mapError_eq_error_iff {result : Except ε α} {f : ε → ε'} {error : ε'} :
    result.mapError f = .error error ↔ ∃ cause, result = .error cause ∧ f cause = error := by
  cases result with
  | ok value =>
      show Except.ok value = Except.error error ↔ _
      simp
  | error cause =>
      show Except.error (f cause) = Except.error error ↔ _
      simp

theorem map_eq_error_iff {result : Except ε α} {f : α → β} :
    result.map f = .error error ↔ result = .error error := by
  cases result <;> simp [Except.map]

theorem map_eq_ok_iff {result : Except ε α} {f : α → β} {value : β} :
    result.map f = .ok value ↔ ∃ inner, result = .ok inner ∧ f inner = value := by
  cases result <;> simp [Except.map]

end OneResult

/-! ## Two results -/

/-- Two results are the same, unless the first is an error that says that something is lacking. -/
def SameUnless {α ε : Type} (lacks : ε → Prop) (first second : Except ε α) : Prop :=
  first = second ∨ ∃ cause, first = .error cause ∧ lacks cause

namespace SameUnless

variable {α β ε ε' : Type} {lacks : ε → Prop} {lacks' : ε' → Prop} {first second : Except ε α}

theorem refl (result : Except ε α) : SameUnless lacks result result := .inl rfl

/-- A first result that is no error is the second one. -/
theorem eq_ok (h : SameUnless lacks first second) {value : α} (hok : first = .ok value) :
    second = .ok value := by
  rcases h with hsame | ⟨cause, herror, -⟩
  · rw [← hsame, hok]
  · rw [hok] at herror
    exact nomatch herror

/-- What goes on from two results is the same, if it is so from the value that they share. -/
theorem bind {f g : α → Except ε β} (h : SameUnless lacks first second)
    (hnext : ∀ value, SameUnless lacks (f value) (g value)) :
    SameUnless lacks (first >>= f) (second >>= g) := by
  rcases h with rfl | ⟨cause, rfl, hlacks⟩
  · cases first with
    | ok value => exact hnext value
    | error cause => exact .inl rfl
  · exact .inr ⟨cause, rfl, hlacks⟩

/-- Results stay the same, with the one exception, if both values are changed alike. -/
theorem map (h : SameUnless lacks first second) (f : α → β) :
    SameUnless lacks (first.map f) (second.map f) := by
  rcases h with rfl | ⟨cause, rfl, hlacks⟩
  · exact .inl rfl
  · exact .inr ⟨cause, rfl, hlacks⟩

/-- An error that is worded anew still says what is lacking. -/
theorem mapError (h : SameUnless lacks first second) {word : ε → ε'}
    (hword : ∀ cause, lacks cause → lacks' (word cause)) :
    SameUnless lacks' (first.mapError word) (second.mapError word) := by
  rcases h with rfl | ⟨cause, rfl, hlacks⟩
  · exact .inl rfl
  · exact .inr ⟨word cause, rfl, hword cause hlacks⟩

/-- A first item and the list behind it. -/
theorem cons {others others' : Except ε (List α)} (h : SameUnless lacks first second)
    (hothers : SameUnless lacks others others') :
    SameUnless lacks (do let value ← first; pure (value :: (← others)))
      (do let value ← second; pure (value :: (← others'))) :=
  h.bind fun _ => hothers.bind fun _ => .refl _

/-- A list read item by item. -/
theorem mapM {f g : β → Except ε α} (h : ∀ item, SameUnless lacks (f item) (g item)) (items : List β) :
    SameUnless lacks (items.mapM f) (items.mapM g) := by
  induction items with
  | nil => exact .refl _
  | cons item rest ih =>
      rw [List.mapM_cons, List.mapM_cons]
      exact (h item).cons ih

end SameUnless

end Docstore

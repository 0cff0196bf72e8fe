import Docstore.Proofs.Path.Copy

/-!
# `Docstore.Proofs.Path.Strict` — reading through documents after a copy

What a path names through documents alone, after another path was copied. A copy keeps the shape of its
source: where that has an array on a stretch of way that both paths share, the copy puts an array there too,
and nothing is left to go through for the other path. That is the only case in which a copy disturbs a path
apart from it.

## Contents
- **One field.** What `childFields` reads after `Entries.insert`.
- **After a copy.** `resolveStrict_copySegments_of_shares`, `resolveStrict_copySegments_of_not_shares`.
-/

namespace Docstore

variable {name head next : String} {rest path other : List String} {fields inner source out : Fields}

/-! ## One field -/

@[simp]
theorem childFields_insert_document :
    childFields name (Entries.insert name (.document inner) fields) = inner :=
  childFields_of_document (Entries.get?_insert_self ..)

@[simp]
theorem childFields_insert_array {items : List Value} :
    childFields name (Entries.insert name (.array items) fields) = [] := by
  unfold childFields
  rw [Entries.get?_insert_self]

/-- A path reads nothing but the field of its first segment. -/
theorem resolveStrictSegments_congr {fields' : Fields}
    (h : Entries.get? head fields = Entries.get? head fields') (rest : List String) :
    resolveStrictSegments (head :: rest) fields = resolveStrictSegments (head :: rest) fields' := by
  cases rest with
  | nil => exact h
  | cons next rest => rw [resolveStrictSegments, resolveStrictSegments, h]

/-! ## After a copy -/

/-- **Where two paths share a way to an array**, copying one of them leaves nothing at the other. -/
theorem resolveStrict_copySegments_of_shares (h : Apart path other)
    (hshares : SharesArray path other source) (out : Fields) :
    resolveStrictSegments path (copySegments other source out) = none := by
  induction path generalizing other source out with
  | nil => exact absurd rfl h.ne_nil
  | cons head rest ih =>
      obtain ⟨name, more, rfl⟩ := List.exists_cons_of_ne_nil h.symm.ne_nil
      rcases h.cons_cases with hne | ⟨rfl, hrest, hmore, hapart⟩
      · exact absurd hshares (not_sharesArray_of_ne hne)
      · obtain ⟨next, rest, rfl⟩ := List.exists_cons_of_ne_nil hrest
        obtain ⟨next', more, rfl⟩ := List.exists_cons_of_ne_nil hmore
        rw [copySegments_inside, resolveStrictSegments_cons]
        rcases sharesArray_cons_iff.mp hshares with ⟨documents, hmany⟩ | ⟨inner, hone, hinner⟩
        · -- the copy is an array, whatever stood there before
          rw [hmany]
          show resolveStrictSegments _ (childFields head (Entries.insert head (.array _) out)) = none
          rw [childFields_insert_array]
          exact resolveStrictSegments_empty _
        · rw [hone]
          show resolveStrictSegments _ (childFields head (Entries.insert head (.document _) out)) = none
          rw [childFields_insert_document]
          exact ih hapart hinner (childFields head out)

/-- **Where they share no way to an array**, a copy leaves alone what stands at paths apart from its own. -/
theorem resolveStrict_copySegments_of_not_shares (h : Apart path other)
    (hshares : ¬SharesArray path other source) (out : Fields) :
    resolveStrictSegments path (copySegments other source out) = resolveStrictSegments path out := by
  induction path generalizing other source out with
  | nil => exact absurd rfl h.ne_nil
  | cons head rest ih =>
      obtain ⟨name, more, rfl⟩ := List.exists_cons_of_ne_nil h.symm.ne_nil
      rcases h.cons_cases with hne | ⟨rfl, hrest, hmore, hapart⟩
      · have hbeside : (name :: more).head? ≠ some head := by simpa using hne.symm
        exact resolveStrictSegments_congr (get?_copySegments_of_ne hbeside) rest
      · obtain ⟨next, rest, rfl⟩ := List.exists_cons_of_ne_nil hrest
        obtain ⟨next', more, rfl⟩ := List.exists_cons_of_ne_nil hmore
        rw [sharesArray_cons_iff] at hshares
        rw [copySegments_inside]
        cases hinside : inside head source with
        | one inner =>
            have hinner : ¬SharesArray (next :: rest) (next' :: more) inner :=
              fun hshared => hshares (.inr ⟨inner, hinside, hshared⟩)
            rw [resolveStrictSegments_cons, resolveStrictSegments_cons]
            show resolveStrictSegments _ (childFields head (Entries.insert head (.document _) out)) = _
            rw [childFields_insert_document]
            -- the copy goes on in the document that stood there before
            exact ih hapart hinner (childFields head out)
        | many documents => exact absurd (.inl ⟨documents, hinside⟩) hshares
        | nothing => rfl

end Docstore

import Docstore.Path.Edit
import Docstore.Path.Resolve
import Docstore.Proofs.Entries
import Mathlib.Data.List.Forall2

/-!
# `Docstore.Proofs.Path.Alike` — documents that are alike along a path

A path looks at a document only through what the fields on its way hold for its rest: one document, the
documents of an array, or nothing to go on with (`inside`). Two documents are alike along a path if those
agree all the way down and the fields at its end hold the same. Then reading or copying the path cannot tell
the two apart.

## Contents
- **Paths apart.** `Apart`: neither path is the beginning of the other.
- **Inside a field.** `inside`, with `resolveSegments_inside`, `resolveStrictSegments_cons`,
  `resolveStrictSegments_eq_some_iff` and `copySegments_inside` for paths that go on.
- **Alike along a path.** `AlikeAlong`; `AlikeAlong.resolve`, `AlikeAlong.copy`.
- **Arrays on the way.** `LeadsToArray`, `MeetsArray`, `SharesArray`.
-/

namespace Docstore

variable {name head next : String} {rest path other : List String} {fields source out : Fields}

/-! ## Paths apart -/

/-- Neither path is the beginning of the other. -/
def Apart (path other : List String) : Prop := ¬path <+: other ∧ ¬other <+: path

namespace Apart

theorem symm (h : Apart path other) : Apart other path := ⟨h.2, h.1⟩

instance : Std.Symm Apart := ⟨fun _ _ => symm⟩

theorem ne_nil (h : Apart path other) : path ≠ [] := by
  rintro rfl
  exact h.1 List.nil_prefix

/-- Paths that are apart and begin alike are apart after that. -/
theorem cons_iff : Apart (head :: path) (head :: other) ↔ Apart path other := by
  unfold Apart
  rw [List.prefix_cons_inj, List.prefix_cons_inj]

/-- Two paths that are apart part at their first segments, or both go on. -/
theorem cons_cases (h : Apart (head :: path) (name :: other)) :
    head ≠ name ∨ (head = name ∧ path ≠ [] ∧ other ≠ [] ∧ Apart path other) := by
  by_cases hname : head = name
  · subst hname
    have hrest := cons_iff.mp h
    exact .inr ⟨rfl, hrest.ne_nil, hrest.symm.ne_nil, hrest⟩
  · exact .inl hname

end Apart

/-! ## Inside a field -/

/-- What a field holds for the rest of a path: the fields of a document, or those of each document in an
array. Any other value holds nothing for it. -/
inductive Inside where
  | one (inner : Fields)
  | many (documents : List Fields)
  | nothing

/-- What a value holds for the rest of a path. -/
def Value.inside : Value → Inside
  | .document inner => .one inner
  | .array items => .many (items.filterMap Value.fields?)
  | _ => .nothing

/-- What a field holds for the rest of a path; nothing if it is missing. -/
def inside (name : String) (fields : Fields) : Inside :=
  match Entries.get? name fields with
  | some value => value.inside
  | none => .nothing

theorem inside_of_get? {value : Value} (h : Entries.get? name fields = some value) :
    inside name fields = value.inside := by
  unfold inside
  rw [h]

theorem inside_of_missing (h : Entries.get? name fields = none) : inside name fields = .nothing := by
  unfold inside
  rw [h]

theorem inside_congr {fields' : Fields} (h : Entries.get? name fields = Entries.get? name fields') :
    inside name fields = inside name fields' := by
  unfold inside
  rw [h]

/-- A field holds one document exactly if its value is that document. -/
theorem inside_eq_one_iff {inner : Fields} :
    inside name fields = .one inner ↔ Entries.get? name fields = some (.document inner) := by
  cases h : Entries.get? name fields with
  | none => simp [inside_of_missing h]
  | some value =>
      rw [inside_of_get? h]
      cases value <;> simp [Value.inside]

/-- A field holds many documents exactly if its value is an array. -/
theorem exists_inside_eq_many_iff : (∃ documents, inside name fields = .many documents) ↔
    ∃ items, Entries.get? name fields = some (.array items) := by
  cases h : Entries.get? name fields with
  | none => simp [inside_of_missing h]
  | some value =>
      rw [inside_of_get? h]
      cases value <;> simp [Value.inside]

/-- What is found inside a field: one value for each document of an array that has any. -/
def Inside.gather (dropEmpty : Bool) (read : Fields → Option Value) : Inside → Option Value
  | one inner => read inner
  | many documents =>
    let found := documents.filterMap read
    if dropEmpty && found.isEmpty then none else some (.array found)
  | nothing => none

/-- A path of more than one segment is read inside its first one. -/
theorem resolveSegments_inside (dropEmpty : Bool) :
    resolveSegments dropEmpty (head :: next :: rest) fields =
      (inside head fields).gather dropEmpty (resolveSegments dropEmpty (next :: rest)) := by
  rw [resolveSegments, inside]
  cases Entries.get? head fields with
  | none => rfl
  | some value =>
      cases value with
      | array items =>
          refine congrArg (fun found : List Value =>
            if dropEmpty && found.isEmpty then none else some (Value.array found)) ?_
          rw [List.filterMap_filterMap]
          refine congrArg (List.filterMap · items) (funext fun item => ?_)
          cases item <;> rfl
      | _ => rfl

theorem childFields_of_document {inner : Fields}
    (h : Entries.get? name fields = some (.document inner)) : childFields name fields = inner := by
  unfold childFields
  rw [h]

/-- In a document without fields nothing is found. -/
theorem resolveStrictSegments_empty (path : List String) : resolveStrictSegments path [] = none := by
  match path with
  | [] | [_] | _ :: _ :: _ => rfl

/-- Going through documents only, a field that holds no document is as good as an empty one. -/
theorem resolveStrictSegments_cons : resolveStrictSegments (head :: next :: rest) fields =
    resolveStrictSegments (next :: rest) (childFields head fields) := by
  rw [resolveStrictSegments, childFields]
  cases Entries.get? head fields with
  | none => exact (resolveStrictSegments_empty _).symm
  | some value =>
      cases value with
      | document inner => rfl
      | _ => exact (resolveStrictSegments_empty _).symm

/-- A path that goes on leads to something exactly if it does so in a document in its first field. -/
theorem resolveStrictSegments_eq_some_iff {value : Value} :
    resolveStrictSegments (head :: next :: rest) fields = some value ↔
      ∃ inner, Entries.get? head fields = some (.document inner) ∧
        resolveStrictSegments (next :: rest) inner = some value := by
  rw [resolveStrictSegments]
  cases Entries.get? head fields with
  | none => simp
  | some held => cases held <;> simp

/-- Items that are no documents are not copied. -/
theorem copyItems_documents (copy : Fields → Fields → Fields) (items prior : List Value) :
    copyItems copy items prior =
      copyItems copy ((items.filterMap Value.fields?).map .document) prior := by
  induction items generalizing prior with
  | nil => rfl
  | cons item items ih =>
      cases item with
      | document inner => exact congrArg _ (ih prior.tail)
      | _ => exact ih prior

/-- A path of more than one segment is copied inside its first one. -/
theorem copySegments_inside : copySegments (head :: next :: rest) source out =
    match inside head source with
    | .one inner =>
      Entries.insert head (.document (copySegments (next :: rest) inner (childFields head out))) out
    | .many documents =>
      Entries.insert head (.array (copyItems (copySegments (next :: rest))
        (documents.map .document) (childItems head out))) out
    | .nothing => out := by
  rw [copySegments, inside]
  cases Entries.get? head source with
  | none => rfl
  | some value =>
      cases value with
      | array items =>
          show Entries.insert head (.array (copyItems _ items _)) out = _
          rw [copyItems_documents]
          rfl
      | _ => rfl

/-! ## Alike along a path -/

/-- Two fields hold documents in the same places, and those that face each other are related. -/
inductive Inside.Alike (related : Fields → Fields → Prop) : Inside → Inside → Prop where
  | one {a b : Fields} (h : related a b) : Alike related (.one a) (.one b)
  | many {as bs : List Fields} (h : List.Forall₂ related as bs) : Alike related (.many as) (.many bs)
  | nothing : Alike related .nothing .nothing

namespace Inside.Alike

variable {related : Fields → Fields → Prop}

theorem refl (hrefl : ∀ fields, related fields fields) : ∀ held : Inside, Alike related held held
  | .one inner => .one (hrefl inner)
  | .many _ => .many (List.forall₂_same.mpr fun inner _ => hrefl inner)
  | .nothing => .nothing

theorem trans (htrans : ∀ a b c, related a b → related b c → related a c) {x y z : Inside}
    (hxy : Alike related x y) (hyz : Alike related y z) : Alike related x z := by
  cases hxy with
  | one hab =>
      cases hyz with
      | one hbc => exact .one (htrans _ _ _ hab hbc)
  | nothing => exact hyz
  | @many as bs hab =>
      cases hyz with
      | @many _ cs hbc =>
          refine .many ?_
          -- both outer lists face the one in the middle, document by document
          induction hab generalizing cs with
          | nil => exact hbc
          | cons h _ ih =>
              cases hbc with
              | cons h' hbc => exact .cons (htrans _ _ _ h h') (ih hbc)

end Inside.Alike

/-- Two documents show a path the same: documents in the same places all the way down, and the same value,
or none, in the fields at its end. -/
def AlikeAlong : List String → Fields → Fields → Prop
  | [], _, _ => True
  | [last], a, b => Entries.get? last a = Entries.get? last b
  | head :: next :: rest, a, b =>
    Inside.Alike (AlikeAlong (next :: rest)) (inside head a) (inside head b)

namespace AlikeAlong

variable {a b c : Fields}

/-- Documents show a longer path the same exactly if the rest is shown the same inside its first field. -/
theorem cons_iff : AlikeAlong (head :: next :: rest) a b ↔
    Inside.Alike (AlikeAlong (next :: rest)) (inside head a) (inside head b) := Iff.rfl

theorem refl (path : List String) (fields : Fields) : AlikeAlong path fields fields := by
  induction path generalizing fields with
  | nil => trivial
  | cons head rest ih =>
      cases rest with
      | nil => exact rfl
      | cons next rest => exact Inside.Alike.refl ih (inside head fields)

theorem trans (hab : AlikeAlong path a b) (hbc : AlikeAlong path b c) : AlikeAlong path a c := by
  induction path generalizing a b c with
  | nil => trivial
  | cons head rest ih =>
      cases rest with
      | nil => exact Eq.trans hab hbc
      | cons next rest =>
          exact @Inside.Alike.trans (AlikeAlong (next :: rest)) (fun _ _ _ => ih) _ _ _ hab hbc

/-- A path does not look beside its first segment. -/
theorem of_get? (h : Entries.get? head a = Entries.get? head b) (rest : List String) :
    AlikeAlong (head :: rest) a b := by
  cases rest with
  | nil => exact h
  | cons next rest =>
      rw [cons_iff, inside_congr h]
      exact Inside.Alike.refl (refl _) _

/-- A document in which the document under one name is changed is alike along the paths along which the
changed one is. -/
theorem insert_document {inner changed : Fields}
    (hinner : Entries.get? head fields = some (.document inner))
    (h : AlikeAlong (next :: rest) changed inner) :
    AlikeAlong (head :: next :: rest) (Entries.insert head (.document changed) fields) fields := by
  rw [cons_iff, inside_of_get? (Entries.get?_insert_self ..), inside_of_get? hinner]
  exact .one h

/-- **Reading does not tell documents apart that are alike along the path.** -/
theorem resolve (h : AlikeAlong path a b) (dropEmpty : Bool) :
    resolveSegments dropEmpty path a = resolveSegments dropEmpty path b := by
  induction path generalizing a b with
  | nil => rfl
  | cons head rest ih =>
      cases rest with
      | nil => exact h
      | cons next rest =>
          rw [resolveSegments_inside, resolveSegments_inside]
          rw [AlikeAlong.cons_iff] at h
          -- from here on all that counts is that the two fields hold documents in the same places
          generalize inside head a = x, inside head b = y at h
          cases h with
          | one h => exact ih h
          | nothing => rfl
          | @many as bs h =>
              have hfound : as.filterMap (resolveSegments dropEmpty (next :: rest)) =
                  bs.filterMap (resolveSegments dropEmpty (next :: rest)) := by
                induction h with
                | nil => rfl
                | cons hab _ hrest => rw [List.filterMap_cons, List.filterMap_cons, ih hab, hrest]
              simp only [Inside.gather, hfound]

/-- **Nor does copying, onto whatever was there before.** -/
theorem copy (h : AlikeAlong path a b) (out : Fields) :
    copySegments path a out = copySegments path b out := by
  induction path generalizing a b out with
  | nil => rfl
  | cons head rest ih =>
      cases rest with
      | nil =>
          have hlast : Entries.get? head a = Entries.get? head b := h
          rw [copySegments, copySegments, hlast]
      | cons next rest =>
          rw [copySegments_inside, copySegments_inside]
          rw [AlikeAlong.cons_iff] at h
          generalize inside head a = x, inside head b = y at h
          cases h with
          | one h =>
              show Entries.insert head (.document _) out = Entries.insert head (.document _) out
              rw [ih h]
          | nothing => rfl
          | @many as bs h =>
              -- each document is copied onto the next of the earlier ones, so those stay general
              have hitems : ∀ prior, copyItems (copySegments (next :: rest)) (as.map .document) prior =
                  copyItems (copySegments (next :: rest)) (bs.map .document) prior := by
                induction h with
                | nil => exact fun prior => rfl
                | cons hab _ hrest =>
                    intro prior
                    rw [List.map_cons, List.map_cons, copyItems, copyItems, ih hab, hrest]
              show Entries.insert head (.array _) out = Entries.insert head (.array _) out
              rw [hitems]

end AlikeAlong

/-! ## Arrays on the way -/

/-- Does a path lead through documents to an array? -/
def LeadsToArray (path : List String) (fields : Fields) : Prop :=
  ∃ items, resolveStrictSegments path fields = some (.array items)

/-- Does a path meet an array before its end? -/
def MeetsArray (path : List String) (fields : Fields) : Prop :=
  ∃ stem, stem <+: path ∧ stem ≠ path ∧ LeadsToArray stem fields

/-- Do two paths have a common beginning that leads to an array? -/
def SharesArray (path other : List String) (fields : Fields) : Prop :=
  ∃ stem, stem <+: path ∧ stem <+: other ∧ LeadsToArray stem fields

theorem not_leadsToArray_nil : ¬LeadsToArray [] fields := nofun

/-- A path leads to an array if its first segment names one and is the last, or if the rest leads to one
inside. -/
theorem leadsToArray_cons_iff : LeadsToArray (head :: rest) fields ↔
    (rest = [] ∧ ∃ documents, inside head fields = .many documents) ∨
      ∃ inner, inside head fields = .one inner ∧ LeadsToArray rest inner := by
  rw [exists_inside_eq_many_iff]
  simp only [inside_eq_one_iff]
  cases rest with
  | nil => simp [LeadsToArray, resolveStrictSegments]
  | cons next rest =>
      simp only [LeadsToArray, resolveStrictSegments_eq_some_iff, reduceCtorEq, false_and, false_or]
      rw [exists_comm]
      simp only [exists_and_left]

theorem not_meetsArray_singleton : ¬MeetsArray [name] fields := by
  rintro ⟨stem, hstem, hne, harray⟩
  cases stem with
  | nil => exact not_leadsToArray_nil harray
  | cons head stem =>
      obtain ⟨rfl, hrest⟩ := List.cons_prefix_cons.mp hstem
      obtain rfl := List.prefix_nil.mp hrest
      exact hne rfl

/-- A longer path meets an array if its first segment names one, or if the rest meets one inside. -/
theorem meetsArray_cons_iff : MeetsArray (head :: next :: rest) fields ↔
    (∃ documents, inside head fields = .many documents) ∨
      ∃ inner, inside head fields = .one inner ∧ MeetsArray (next :: rest) inner := by
  constructor
  · rintro ⟨stem, hstem, hne, harray⟩
    cases stem with
    | nil => exact (not_leadsToArray_nil harray).elim
    | cons first stem =>
        obtain ⟨rfl, hrest⟩ := List.cons_prefix_cons.mp hstem
        rcases leadsToArray_cons_iff.mp harray with ⟨-, hmany⟩ | ⟨inner, hinner, harray⟩
        · exact .inl hmany
        · exact .inr ⟨inner, hinner, stem, hrest, fun h => hne (h ▸ rfl), harray⟩
  · rintro (hmany | ⟨inner, hinner, stem, hstem, hne, harray⟩)
    · exact ⟨[head], by simp, by simp, leadsToArray_cons_iff.mpr (.inl ⟨rfl, hmany⟩)⟩
    · exact ⟨head :: stem, (List.prefix_cons_inj head).mpr hstem, by simpa using hne,
        leadsToArray_cons_iff.mpr (.inr ⟨inner, hinner, harray⟩)⟩

theorem not_meetsArray_empty : ¬MeetsArray path [] := by
  rintro ⟨stem, -, -, items, harray⟩
  exact nomatch (resolveStrictSegments_empty stem).symm.trans harray

/-- A path that goes on meets an array in its first field, or in the document that is there. -/
theorem meetsArray_iff_childFields : MeetsArray (head :: next :: rest) fields ↔
    (∃ items, Entries.get? head fields = some (.array items)) ∨
      MeetsArray (next :: rest) (childFields head fields) := by
  rw [meetsArray_cons_iff, exists_inside_eq_many_iff]
  refine or_congr_right ?_
  constructor
  · rintro ⟨inner, hone, hmeets⟩
    rwa [childFields_of_document (inside_eq_one_iff.mp hone)]
  · intro hmeets
    unfold childFields at hmeets
    split at hmeets
    · next inner hinner => exact ⟨inner, inside_eq_one_iff.mpr hinner, hmeets⟩
    · exact absurd hmeets not_meetsArray_empty

/-- A path that leads somewhere through documents meets no array on the way. -/
theorem not_meetsArray_of_resolveStrict {value : Value}
    (h : resolveStrictSegments path fields = some value) : ¬MeetsArray path fields := by
  induction path generalizing fields with
  | nil => exact nomatch h
  | cons head rest ih =>
      cases rest with
      | nil => exact not_meetsArray_singleton
      | cons next rest =>
          obtain ⟨inner, hinner, hread⟩ := resolveStrictSegments_eq_some_iff.mp h
          rw [meetsArray_iff_childFields, hinner, childFields_of_document hinner]
          rintro (⟨items, harray⟩ | hmeets)
          · exact nomatch harray
          · exact ih hread hmeets

/-- **Without an array on the way all readings of a path agree.** -/
theorem resolveSegments_of_not_meetsArray (h : ¬MeetsArray path fields) (dropEmpty : Bool) :
    resolveSegments dropEmpty path fields = resolveStrictSegments path fields := by
  induction path generalizing fields with
  | nil => rfl
  | cons head rest ih =>
      cases rest with
      | nil => rfl
      | cons next rest =>
          rw [resolveSegments, resolveStrictSegments]
          rw [meetsArray_iff_childFields] at h
          cases hheld : Entries.get? head fields with
          | none => rfl
          | some value =>
              cases value with
              | document inner =>
                  rw [childFields_of_document hheld] at h
                  exact ih fun hmeets => h (.inr hmeets)
              | array items => exact absurd (.inl ⟨items, hheld⟩) h
              | _ => rfl

/-- Paths with different first segments share no array. -/
theorem not_sharesArray_of_ne (h : head ≠ name) : ¬SharesArray (head :: rest) (name :: other) fields := by
  rintro ⟨stem, hstem, hstem', harray⟩
  cases stem with
  | nil => exact not_leadsToArray_nil harray
  | cons first stem =>
      obtain ⟨rfl, -⟩ := List.cons_prefix_cons.mp hstem
      exact h (List.cons_prefix_cons.mp hstem').1

/-- Paths with the same first segment share an array if it names one, or if their rests share one inside. -/
theorem sharesArray_cons_iff : SharesArray (head :: path) (head :: other) fields ↔
    (∃ documents, inside head fields = .many documents) ∨
      ∃ inner, inside head fields = .one inner ∧ SharesArray path other inner := by
  constructor
  · rintro ⟨stem, hstem, hstem', harray⟩
    cases stem with
    | nil => exact (not_leadsToArray_nil harray).elim
    | cons first stem =>
        obtain ⟨rfl, hrest⟩ := List.cons_prefix_cons.mp hstem
        rcases leadsToArray_cons_iff.mp harray with ⟨-, hmany⟩ | ⟨inner, hinner, harray⟩
        · exact .inl hmany
        · exact .inr ⟨inner, hinner, stem, hrest, (List.cons_prefix_cons.mp hstem').2, harray⟩
  · rintro (hmany | ⟨inner, hinner, stem, hstem, hstem', harray⟩)
    · exact ⟨[head], by simp, by simp, leadsToArray_cons_iff.mpr (.inl ⟨rfl, hmany⟩)⟩
    · exact ⟨head :: stem, (List.prefix_cons_inj head).mpr hstem, (List.prefix_cons_inj head).mpr hstem',
        leadsToArray_cons_iff.mpr (.inr ⟨inner, hinner, harray⟩)⟩

/-- Documents that are alike along a path have their arrays on it in the same place. -/
theorem AlikeAlong.meetsArray_iff {a b : Fields} (h : AlikeAlong path a b) :
    MeetsArray path a ↔ MeetsArray path b := by
  induction path generalizing a b with
  | nil =>
      have hnever : ∀ fields, ¬MeetsArray [] fields := by
        rintro fields ⟨stem, hstem, hne, -⟩
        exact hne (List.prefix_nil.mp hstem)
      simp only [hnever]
  | cons head rest ih =>
      cases rest with
      | nil => simp only [not_meetsArray_singleton]
      | cons next rest =>
          rw [meetsArray_cons_iff, meetsArray_cons_iff]
          rw [AlikeAlong.cons_iff] at h
          generalize inside head a = x, inside head b = y at h
          cases h with
          | one h => simpa using ih h
          | many h => simp
          | nothing => rfl

end Docstore

import Docstore.Proofs.Path.Remove
import Docstore.Proofs.Path.Strict
import Docstore.Proofs.Value.Reordered

/-!
# `Docstore.Proofs.Path.Override` — writing and removing at several paths

To override a path is to write a value at it or to remove what is there. Either way the field of the first
segment is assigned anew, and below it the rest of the path is overridden (`overrideSegments_cons`,
`childFields_override`); so writing and removing share their laws. Reading goes through documents only here.

A path that is overridden reads as it was overridden, a path apart from it as before, and two paths that are
apart can be overridden in either order, up to the order of fields. From there the same follows for any list
of paths that are apart.

## Contents
- **Names along a path.** `UniqueAlong`: the documents on the way name nothing twice.
- **One path.** `resolveStrict_override_self`, `resolveStrict_override_of_apart`, `UniqueAlong.override`;
  `not_meetsArray_override`.
- **Two paths.** `override_comm`; `Reordered.override`.
- **Many paths.** `overrideAll`, `Independent`; `resolveStrict_overrideAll_of_mem`,
  `resolveStrict_overrideAll_of_apart`, `reordered_overrideAll`.
-/

namespace Docstore

variable {name head next : String} {rest path other : List String} {change later : Option Value}
  {fields a b : Fields}

/-! ## Overriding -/

/-- Writes a value at segments, or removes what is there. -/
def overrideSegments (change : Option Value) (path : List String) (fields : Fields) : Fields :=
  match change with
  | some value => setSegments value path fields
  | none => removeSegments path fields

/-- The fields of the document that a field holds, or none. -/
def heldFields : Option Value → Fields
  | some (.document inner) => inner
  | _ => []

/-- What becomes of what a field holds when a path that goes on as given is overridden there. A removal goes
on only in a document; a write makes one. -/
def overrideHeld (change : Option Value) : List String → Option Value → Option Value
  | [], _ => change
  | rest, some (.document inner) => some (.document (overrideSegments change rest inner))
  | rest, held => (change.map fun value => .document (setSegments value rest [])).or held

theorem childFields_eq (name : String) (fields : Fields) :
    childFields name fields = heldFields (Entries.get? name fields) := rfl

theorem overrideSegments_none_empty (path : List String) : overrideSegments none path [] = [] := by
  match path with
  | [] | [_] | _ :: _ :: _ => rfl

section Held

variable {held : Option Value}

theorem heldFields_of_other (h : ∀ inner, held ≠ some (.document inner)) : heldFields held = [] := by
  unfold heldFields
  split
  · next inner => exact absurd rfl (h inner)
  · rfl

/-- In what is no document a removal changes nothing, and a write makes a new document. -/
theorem overrideHeld_of_other (h : ∀ inner, held ≠ some (.document inner)) :
    overrideHeld change (next :: rest) held =
      (change.map fun value => .document (setSegments value (next :: rest) [])).or held := by
  unfold overrideHeld
  split
  · next heq => exact nomatch heq
  · next inner _ => exact absurd rfl (h inner)
  · rfl

/-- Going on leaves something where something was. -/
theorem eq_none_of_overrideHeld (h : overrideHeld change (next :: rest) held = none) : held = none := by
  unfold overrideHeld at h
  split at h
  · next heq => exact nomatch heq
  · exact nomatch h
  · exact (Option.or_eq_none_iff.mp h).2

/-- Going on overrides the rest of the path in the document that is there, or in an empty one. -/
theorem heldFields_overrideHeld : heldFields (overrideHeld change (next :: rest) held) =
    overrideSegments change (next :: rest) (heldFields held) := by
  by_cases hdocument : ∃ inner, held = some (.document inner)
  · obtain ⟨inner, rfl⟩ := hdocument
    rfl
  · have hother : ∀ inner, held ≠ some (.document inner) := fun inner hinner => hdocument ⟨inner, hinner⟩
    rw [overrideHeld_of_other hother, heldFields_of_other hother]
    cases change with
    | none =>
        rw [overrideSegments_none_empty]
        exact heldFields_of_other hother
    | some value => rfl

end Held

theorem setSegments_cons {value : Value} : setSegments value (head :: next :: rest) fields =
    Entries.insert head (.document (setSegments value (next :: rest) (childFields head fields))) fields :=
  rfl

/-- **To override a path is to assign the field of its first segment.** -/
theorem overrideSegments_cons : overrideSegments change (head :: rest) fields =
    Entries.assign head (overrideHeld change rest (Entries.get? head fields)) fields := by
  cases rest with
  | nil =>
      cases change with
      | none => exact removeSegments_last
      | some value => rfl
  | cons next rest =>
      by_cases hdocument : ∃ inner, Entries.get? head fields = some (.document inner)
      · -- the field holds a document: the change goes on in it
        obtain ⟨inner, hinner⟩ := hdocument
        rw [hinner]
        cases change with
        | none => exact removeSegments_of_document hinner
        | some value =>
            show setSegments value (head :: next :: rest) fields = _
            rw [setSegments_cons, childFields_of_document hinner]
            rfl
      · -- it holds something else, or nothing: a removal ends here, a write makes a document
        have hother : ∀ inner, Entries.get? head fields ≠ some (.document inner) :=
          fun inner hinner => hdocument ⟨inner, hinner⟩
        rw [overrideHeld_of_other hother]
        cases change with
        | none =>
            have hinside : ∀ inner, inside head fields ≠ .one inner :=
              fun inner hone => hother inner (inside_eq_one_iff.mp hone)
            show removeSegments (head :: next :: rest) fields = _
            rw [removeSegments_of_other hinside]
            exact (Entries.assign_of_get? rfl).symm
        | some value =>
            show setSegments value (head :: next :: rest) fields = _
            rw [setSegments_cons, childFields_eq, heldFields_of_other hother]
            rfl

theorem get?_override_of_ne (h : name ≠ head) (change : Option Value) (rest : List String)
    (fields : Fields) :
    Entries.get? name (overrideSegments change (head :: rest) fields) = Entries.get? name fields := by
  rw [overrideSegments_cons, Entries.get?_assign_of_ne h]

theorem get?_override_self : Entries.get? head (overrideSegments change (head :: next :: rest) fields) =
    overrideHeld change (next :: rest) (Entries.get? head fields) := by
  rw [overrideSegments_cons]
  by_cases hnone : overrideHeld change (next :: rest) (Entries.get? head fields) = none
  · -- nothing comes to stand there, so nothing stood there before
    have hmissing := eq_none_of_overrideHeld hnone
    rw [hnone, Entries.assign_of_get? hmissing, hmissing]
  · exact Entries.get?_assign_self fun heq => absurd heq hnone

theorem childFields_override : childFields head (overrideSegments change (head :: next :: rest) fields) =
    overrideSegments change (next :: rest) (childFields head fields) := by
  rw [childFields_eq, get?_override_self, heldFields_overrideHeld, childFields_eq]

/-! ## Names along a path -/

/-- The documents on the way of a path, arrays left aside, name nothing twice. -/
def UniqueAlong : List String → Fields → Prop
  | [], _ => True
  | head :: rest, fields => (Entries.names fields).Nodup ∧ UniqueAlong rest (childFields head fields)

theorem uniqueAlong_of_namesOnce (h : (Value.document fields).namesOnce = true) (path : List String) :
    UniqueAlong path fields := by
  induction path generalizing fields with
  | nil => trivial
  | cons head rest ih =>
      refine ⟨(Value.namesOnce_document_iff.mp h).1, ih ?_⟩
      unfold childFields
      split
      · next inner hinner => exact Value.namesOnce_of_get? h hinner
      · rfl

/-- **Overriding a path keeps names unique along paths apart from it**, whatever is written at its end. -/
theorem UniqueAlong.override (h : UniqueAlong path fields) (hapart : Apart path other)
    (change : Option Value) : UniqueAlong path (overrideSegments change other fields) := by
  induction path generalizing other fields with
  | nil => trivial
  | cons head rest ih =>
      obtain ⟨hnames, hrest⟩ := h
      obtain ⟨name, more, rfl⟩ := List.exists_cons_of_ne_nil hapart.symm.ne_nil
      constructor
      · rw [overrideSegments_cons]
        exact Entries.nodup_names_assign _ hnames
      · rcases hapart.cons_cases with hne | ⟨rfl, hgo, hgo', hapart⟩
        · rw [childFields_eq, get?_override_of_ne hne, ← childFields_eq]
          exact hrest
        · obtain ⟨next, more, rfl⟩ := List.exists_cons_of_ne_nil hgo'
          rw [childFields_override]
          exact ih hrest hapart

/-! ## Reading -/

/-- **An overridden path reads as it was overridden.** Only for a removal do names have to be unique. -/
theorem resolveStrict_override_self (hpath : path ≠ []) (change : Option Value)
    (h : change = none → UniqueAlong path fields) :
    resolveStrictSegments path (overrideSegments change path fields) = change := by
  induction path generalizing fields with
  | nil => exact absurd rfl hpath
  | cons head rest ih =>
      cases rest with
      | nil =>
          show Entries.get? head (overrideSegments change [head] fields) = change
          rw [overrideSegments_cons]
          exact Entries.get?_assign_self fun hnone => (h hnone).1
      | cons next rest =>
          rw [resolveStrictSegments_cons, childFields_override]
          exact ih (by simp) fun hnone => (h hnone).2

/-- **A path apart from an overridden one reads as before.** -/
theorem resolveStrict_override_of_apart (h : Apart path other) (change : Option Value) (fields : Fields) :
    resolveStrictSegments path (overrideSegments change other fields) =
      resolveStrictSegments path fields := by
  induction path generalizing other fields with
  | nil => exact absurd rfl h.ne_nil
  | cons head rest ih =>
      obtain ⟨name, more, rfl⟩ := List.exists_cons_of_ne_nil h.symm.ne_nil
      rcases h.cons_cases with hne | ⟨rfl, hgo, hgo', hapart⟩
      · exact resolveStrictSegments_congr (get?_override_of_ne hne change more fields) rest
      · obtain ⟨next, rest, rfl⟩ := List.exists_cons_of_ne_nil hgo
        obtain ⟨next', more, rfl⟩ := List.exists_cons_of_ne_nil hgo'
        rw [resolveStrictSegments_cons, childFields_override, resolveStrictSegments_cons]
        exact ih hapart (childFields head fields)

/-! ## Arrays on the way -/

/-- Going on leaves an array only where one was. -/
theorem eq_array_of_overrideHeld {held : Option Value} {items : List Value}
    (h : overrideHeld change (next :: rest) held = some (.array items)) : held = some (.array items) := by
  unfold overrideHeld at h
  split at h
  · next heq => exact nomatch heq
  · exact nomatch h
  · cases change with
    | none => exact h
    | some value => exact nomatch h

/-- **Overriding puts no array on the way of a path,** unless the path goes on from the one overridden. -/
theorem not_meetsArray_override (hmeets : ¬MeetsArray path fields) (h : other <+: path → other = path)
    (change : Option Value) : ¬MeetsArray path (overrideSegments change other fields) := by
  induction path generalizing other fields with
  | nil =>
      rintro ⟨stem, hstem, hne, -⟩
      exact hne (List.prefix_nil.mp hstem)
  | cons head rest ih =>
      cases rest with
      | nil => exact not_meetsArray_singleton
      | cons next rest =>
          cases other with
          | nil => exact nomatch h List.nil_prefix
          | cons name more =>
              rw [meetsArray_iff_childFields] at hmeets ⊢
              by_cases hname : head = name
              · subst hname
                cases more with
                | nil => exact nomatch h (by simp)
                | cons next' more =>
                    have hgo : next' :: more <+: next :: rest → next' :: more = next :: rest := by
                      simpa using h
                    rw [get?_override_self, childFields_override]
                    rintro (⟨items, harray⟩ | hinner)
                    · exact hmeets (.inl ⟨items, eq_array_of_overrideHeld harray⟩)
                    · exact ih (fun hinner => hmeets (.inr hinner)) hgo hinner
              · -- the paths part here, and the field that the path reads stays
                rwa [get?_override_of_ne hname, childFields_eq, get?_override_of_ne hname, ← childFields_eq]

/-! ## Order -/

theorem Reordered.Held.heldFields {u v : Option Value} (h : Reordered.Held u v) :
    Reordered (heldFields u) (heldFields v) := by
  cases h with
  | same => exact .refl _
  | document hxy => exact hxy

/-- **Overriding a path in reordered documents leaves them reordered.** -/
theorem Reordered.override (h : Reordered a b) (hunique : UniqueAlong path a) (change : Option Value) :
    Reordered (overrideSegments change path a) (overrideSegments change path b) := by
  induction path generalizing a b with
  | nil => cases change <;> exact h
  | cons head rest ih =>
      obtain ⟨hnames, hrest⟩ := hunique
      rw [overrideSegments_cons, overrideSegments_cons]
      refine Reordered.assign ?_ h hnames head
      have hheld := h.held hnames head
      rw [childFields_eq] at hrest
      -- what the two fields hold is the same, or two documents in which the rest is overridden
      generalize Entries.get? head a = u, Entries.get? head b = v at hheld hrest
      cases hheld with
      | same => exact .same _
      | document hxy =>
          cases rest with
          | nil => exact .same change
          | cons next rest => exact .document (ih hxy hrest)

/-- Where a path goes on, a document comes to stand if one stood there or something is written. -/
theorem overrideHeld_document_iff {held : Option Value} :
    (∃ inner, overrideHeld change (next :: rest) held = some (.document inner)) ↔
      change ≠ none ∨ ∃ inner, held = some (.document inner) := by
  by_cases hdocument : ∃ inner, held = some (.document inner)
  · obtain ⟨inner, rfl⟩ := hdocument
    simp [overrideHeld]
  · have hother : ∀ inner, held ≠ some (.document inner) := fun inner hinner => hdocument ⟨inner, hinner⟩
    rw [overrideHeld_of_other hother]
    cases change <;> simp [hdocument]

/-- Of two paths that begin alike and go on, each is overridden in what the field holds. -/
theorem override_override {next' : String} {more : List String} :
    overrideSegments change (head :: next :: rest) (overrideSegments later (head :: next' :: more) fields) =
      Entries.assign head (overrideHeld change (next :: rest)
        (overrideHeld later (next' :: more) (Entries.get? head fields))) fields := by
  rw [overrideSegments_cons, get?_override_self, overrideSegments_cons,
    Entries.assign_assign eq_none_of_overrideHeld eq_none_of_overrideHeld]

/-- What a field holds after two overrides in it, in one order and in the other. -/
theorem held_overrideHeld_comm {next' : String} {more : List String} {held : Option Value}
    (h : Reordered (heldFields (overrideHeld change (next :: rest) (overrideHeld later (next' :: more) held)))
      (heldFields (overrideHeld later (next' :: more) (overrideHeld change (next :: rest) held)))) :
    Reordered.Held (overrideHeld change (next :: rest) (overrideHeld later (next' :: more) held))
      (overrideHeld later (next' :: more) (overrideHeld change (next :: rest) held)) := by
  by_cases hsome : change ≠ none ∨ later ≠ none ∨ ∃ inner, held = some (.document inner)
  · obtain ⟨x, hx⟩ : ∃ x, overrideHeld change (next :: rest) (overrideHeld later (next' :: more) held) =
        some (.document x) := by
      rwa [overrideHeld_document_iff, overrideHeld_document_iff]
    obtain ⟨y, hy⟩ : ∃ y, overrideHeld later (next' :: more) (overrideHeld change (next :: rest) held) =
        some (.document y) := by
      rwa [overrideHeld_document_iff, overrideHeld_document_iff, or_left_comm]
    rw [hx, hy] at h ⊢
    exact .document h
  · -- two removals that find no document to go on in
    obtain ⟨rfl, rfl, hother⟩ : change = none ∧ later = none ∧ ¬∃ inner, held = some (.document inner) := by
      simpa using hsome
    have hsame : ∀ next rest, overrideHeld none (next :: rest) held = held :=
      fun _ _ => overrideHeld_of_other fun inner hinner => hother ⟨inner, hinner⟩
    rw [hsame, hsame, hsame]
    exact .same held

/-- **Two paths that are apart can be overridden in either order**, up to the order of fields. -/
theorem override_comm (h : Apart path other) (hunique : UniqueAlong path fields)
    (change later : Option Value) :
    Reordered (overrideSegments change path (overrideSegments later other fields))
      (overrideSegments later other (overrideSegments change path fields)) := by
  induction path generalizing other fields with
  | nil => exact absurd rfl h.ne_nil
  | cons head rest ih =>
      obtain ⟨name, more, rfl⟩ := List.exists_cons_of_ne_nil h.symm.ne_nil
      obtain ⟨hnames, hrest⟩ := hunique
      rcases h.cons_cases with hne | ⟨rfl, hgo, hgo', hapart⟩
      · -- the paths part here, so they assign two fields
        have hleft : overrideSegments change (head :: rest) (overrideSegments later (name :: more) fields) =
            Entries.assign head (overrideHeld change rest (Entries.get? head fields))
              (Entries.assign name (overrideHeld later more (Entries.get? name fields)) fields) := by
          rw [overrideSegments_cons, get?_override_of_ne hne, overrideSegments_cons]
        have hright : overrideSegments later (name :: more) (overrideSegments change (head :: rest) fields) =
            Entries.assign name (overrideHeld later more (Entries.get? name fields))
              (Entries.assign head (overrideHeld change rest (Entries.get? head fields)) fields) := by
          rw [overrideSegments_cons, get?_override_of_ne hne.symm, overrideSegments_cons]
        rw [hleft, hright]
        exact .of_perm (Entries.assign_assign_perm hne _ _ fields)
      · obtain ⟨next, rest, rfl⟩ := List.exists_cons_of_ne_nil hgo
        obtain ⟨next', more, rfl⟩ := List.exists_cons_of_ne_nil hgo'
        have hinner := ih hapart hrest
        rw [override_override, override_override]
        refine Reordered.assign ?_ (.refl fields) hnames head
        rw [childFields_eq, ← heldFields_overrideHeld, ← heldFields_overrideHeld, ← heldFields_overrideHeld,
          ← heldFields_overrideHeld] at hinner
        exact held_overrideHeld_comm hinner

/-! ## Many paths -/

variable {changes changes' : List (List String × Option Value)} {entry : List String × Option Value}

/-- Overrides paths, one after the other. -/
def overrideAll (changes : List (List String × Option Value)) (fields : Fields) : Fields :=
  changes.foldl (fun out entry => overrideSegments entry.2 entry.1 out) fields

/-- Paths to override in a document: they are apart, and along them the document names nothing twice. -/
structure Independent (changes : List (List String × Option Value)) (fields : Fields) : Prop where
  apart : changes.Pairwise fun a b => Apart a.1 b.1
  unique : ∀ entry ∈ changes, UniqueAlong entry.1 fields

namespace Independent

/-- Overriding the first path leaves the others independent. -/
theorem tail (h : Independent (entry :: changes) fields) :
    Independent changes (overrideSegments entry.2 entry.1 fields) := by
  obtain ⟨hfirst, hrest⟩ := List.pairwise_cons.mp h.apart
  refine ⟨hrest, fun later hm => ?_⟩
  exact (h.unique later (List.mem_cons_of_mem _ hm)).override (hfirst later hm).symm entry.2

theorem of_perm (h : Independent changes fields) (hperm : changes.Perm changes') :
    Independent changes' fields where
  apart := (hperm.pairwise_iff fun hapart => hapart.symm).mp h.apart
  unique entry hm := h.unique entry (hperm.mem_iff.mpr hm)

end Independent

/-- **A path apart from all that are overridden reads as before.** -/
theorem resolveStrict_overrideAll_of_apart (h : ∀ entry ∈ changes, Apart path entry.1) (fields : Fields) :
    resolveStrictSegments path (overrideAll changes fields) = resolveStrictSegments path fields := by
  induction changes generalizing fields with
  | nil => rfl
  | cons entry changes ih =>
      obtain ⟨hentry, hchanges⟩ := List.forall_mem_cons.mp h
      exact (ih hchanges _).trans (resolveStrict_override_of_apart hentry entry.2 fields)

/-- **Each of several overridden paths reads as it was overridden.** -/
theorem resolveStrict_overrideAll_of_mem (h : Independent changes fields) (hm : entry ∈ changes)
    (hpath : entry.1 ≠ []) : resolveStrictSegments entry.1 (overrideAll changes fields) = entry.2 := by
  induction changes generalizing fields with
  | nil => exact nomatch hm
  | cons first changes ih =>
      rcases List.mem_cons.mp hm with rfl | hm
      · -- the later ones are apart from it
        have hself := resolveStrict_override_self hpath entry.2
          fun _ => h.unique entry (List.mem_cons_self ..)
        exact (resolveStrict_overrideAll_of_apart (List.pairwise_cons.mp h.apart).1 _).trans hself
      · exact ih h.tail hm

/-- **Overriding goes along with order.** Documents that differ in order alone do so after the same
changes. -/
theorem Reordered.overrideAll (hab : Reordered a b) (h : Independent changes a) :
    Reordered (overrideAll changes a) (overrideAll changes b) := by
  induction changes generalizing a b with
  | nil => exact hab
  | cons entry changes ih =>
      have hfirst := hab.override (h.unique entry (List.mem_cons_self ..)) entry.2
      exact ih hfirst h.tail

/-- **Paths that are apart can be overridden in any order**, up to the order of fields. -/
theorem reordered_overrideAll (hperm : changes.Perm changes') (h : Independent changes fields) :
    Reordered (overrideAll changes fields) (overrideAll changes' fields) := by
  induction hperm generalizing fields with
  | nil => exact .refl fields
  | cons entry _ ih => exact ih h.tail
  | swap first second changes =>
      obtain ⟨hsecond, -⟩ := List.pairwise_cons.mp h.apart
      have hapart : Apart second.1 first.1 := hsecond first (List.mem_cons_self ..)
      have hunique := h.unique first (List.mem_cons_of_mem _ (List.mem_cons_self ..))
      -- from here on the same paths are overridden in documents that are reordered
      exact (override_comm hapart.symm hunique first.2 second.2).overrideAll h.tail.tail
  | trans hleft _ ihleft ihright => exact (ihleft h).trans (ihright (h.of_perm hleft))

end Docstore

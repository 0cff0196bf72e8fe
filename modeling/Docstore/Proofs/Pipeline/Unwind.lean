import Docstore.Proofs.Path.Override
import Docstore.Proofs.Pipeline.Execution
import Mathlib.Algebra.Ring.Nat

/-!
# `Docstore.Proofs.Pipeline.Unwind` — one document per item, and nothing lost

Every document that an unwind makes of an array comes about in the same way: the path of the array is
overridden, by an item or by nothing, and then the place of the item is written. As the two paths are apart,
neither disturbs the other, and neither disturbs a path apart from both (`shows_override`). So the items of an
array can be read off the documents that are made of it, in their order, beside all that was there before.

## Contents
- **Paths.** `IndexApart`, `Untouched`.
- **What is made.** `Shows`, `shows_override`.
- **Cases.** `expand_of_items`, `expand_of_empty`, `expand_of_other`; `exists_shows_of_items`,
  `exists_shows_of_empty`.
- **Counting.** `itemCount`, `length_expand`, `length_onList_unwind`.
- **The whole.** `Expands`, `expands_exactly`.
-/

namespace Docstore.Unwind

variable {unwind : Unwind} {path : FieldPath} {document : Fields} {items : List Value}

/-! ## Paths -/

/-- The place of an item is written neither above nor below the item. -/
def IndexApart (unwind : Unwind) : Prop :=
  ∀ index ∈ unwind.indexPath, Apart index.segments unwind.path.segments

/-- A path that is neither the beginning nor a continuation of one that an unwind writes. -/
def Untouched (unwind : Unwind) (path : FieldPath) : Prop :=
  Apart path.segments unwind.path.segments ∧
    ∀ index ∈ unwind.indexPath, Apart path.segments index.segments

/-! ## What is made -/

/-- What is there of a document in one that is made of it. The path of the array holds an item, or is missing,
however it is read; the place of the item is written down; and all other paths read as before. -/
structure Shows (unwind : Unwind) (document : Fields) (item : Option Value) (index : Value)
    (out : Fields) : Prop where
  strict : resolveStrict out unwind.path = item
  anyReading (dropEmpty : Bool) : resolveSegments dropEmpty unwind.path.segments out = item
  place : ∀ path ∈ unwind.indexPath, resolveStrict out path = some index
  beside : ∀ path, unwind.Untouched path → resolveStrict out path = resolveStrict document path

/-- The place of an item leaves alone all paths that are apart from the one that it is written at. -/
theorem resolveStrict_withIndex_of_apart
    (h : ∀ index ∈ unwind.indexPath, Apart path.segments index.segments) (index : Value)
    (document : Fields) :
    resolveStrict (unwind.withIndex index document) path = resolveStrict document path := by
  unfold withIndex
  cases hindex : unwind.indexPath with
  | none => rfl
  | some written =>
      exact resolveStrict_override_of_apart (h written hindex) (some index) document

theorem resolveStrict_withIndex_self (h : path ∈ unwind.indexPath) (index : Value) (document : Fields) :
    resolveStrict (unwind.withIndex index document) path = some index := by
  unfold withIndex
  rw [Option.mem_def.mp h]
  exact resolveStrict_override_self path.nonempty (some index) nofun

/-- Writing the place of an item puts no array on the way to the item. -/
theorem not_meetsArray_withIndex (hindex : unwind.IndexApart)
    (hmeets : ¬MeetsArray unwind.path.segments document) (index : Value) :
    ¬MeetsArray unwind.path.segments (unwind.withIndex index document) := by
  unfold withIndex
  cases hwritten : unwind.indexPath with
  | none => exact hmeets
  | some written =>
      have hapart := hindex written hwritten
      exact not_meetsArray_override hmeets (fun hbefore => absurd hbefore hapart.1) (some index)

/-- **A document that is made shows what was put into it.** Only to take the array out must the documents on
the way name nothing twice. -/
theorem shows_override (hindex : unwind.IndexApart) (hmeets : ¬MeetsArray unwind.path.segments document)
    (item : Option Value) (hunique : item = none → UniqueAlong unwind.path.segments document)
    (index : Value) : unwind.Shows document item index
      (unwind.withIndex index (overrideSegments item unwind.path.segments document)) := by
  have hitem : resolveStrict
      (unwind.withIndex index (overrideSegments item unwind.path.segments document)) unwind.path =
        item := by
    rw [resolveStrict_withIndex_of_apart fun written hwritten => (hindex written hwritten).symm]
    exact resolveStrict_override_self unwind.path.nonempty item hunique
  refine ⟨hitem, ?_, ?_, ?_⟩
  · intro dropEmpty
    have hleft := not_meetsArray_override hmeets (fun _ => rfl) item
    rw [resolveSegments_of_not_meetsArray (not_meetsArray_withIndex hindex hleft index)]
    exact hitem
  · intro path hpath
    exact resolveStrict_withIndex_self hpath index _
  · intro path hpath
    rw [resolveStrict_withIndex_of_apart hpath.2]
    exact resolveStrict_override_of_apart hpath.1 item document

/-! ## Cases -/

theorem expand_of_items (h : resolveStrict document unwind.path = some (.array items)) (hsome : items ≠ []) :
    unwind.expand document =
      items.zipIdx.map fun (item, index) => unwind.withItem document item index := by
  obtain ⟨first, rest, rfl⟩ := List.exists_cons_of_ne_nil hsome
  unfold expand
  rw [h]

/-- An empty array makes no document, or one without the array if empty ones are kept. -/
theorem expand_of_empty (h : resolveStrict document unwind.path = some (.array [])) :
    unwind.expand document =
      if unwind.keepsEmpty then
        [unwind.withIndex .null (overrideSegments none unwind.path.segments document)]
      else [] := by
  unfold expand
  rw [h]
  rfl

/-- Anything that is no array makes one document with no place. -/
theorem expand_of_other (h : ∀ items, resolveStrict document unwind.path ≠ some (.array items)) :
    unwind.expand document = [unwind.withIndex .null document] := by
  unfold expand
  split
  · next hempty => exact absurd hempty (h [])
  · next items _ hitems => exact absurd hitems (h items)
  · rfl

theorem length_expand_of_items (h : resolveStrict document unwind.path = some (.array items))
    (hsome : items ≠ []) : (unwind.expand document).length = items.length := by
  rw [expand_of_items h hsome, List.length_map, List.length_zipIdx]

/-- **Each item is shown in its place,** counted from zero. -/
theorem exists_shows_of_items (hindex : unwind.IndexApart)
    (h : resolveStrict document unwind.path = some (.array items)) {place : Nat}
    (hplace : place < items.length) : ∃ out, (unwind.expand document)[place]? = some out ∧
      unwind.Shows document (some items[place]) (.int64 (Int64.ofNat place)) out := by
  have hsome : items ≠ [] := List.ne_nil_of_length_pos (Nat.zero_lt_of_lt hplace)
  have hmeets := not_meetsArray_of_resolveStrict h
  refine ⟨unwind.withItem document items[place] place, ?_, ?_⟩
  · rw [expand_of_items h hsome, List.getElem?_map, List.getElem?_zipIdx, List.getElem?_eq_getElem hplace]
    simp
  · exact shows_override hindex hmeets (some items[place]) nofun _

/-- An empty array that is kept is not shown. -/
theorem exists_shows_of_empty (hindex : unwind.IndexApart)
    (hunique : UniqueAlong unwind.path.segments document)
    (h : resolveStrict document unwind.path = some (.array [])) (hkeeps : unwind.keepsEmpty = true) :
    ∃ out, unwind.expand document = [out] ∧ unwind.Shows document none .null out := by
  have hmeets := not_meetsArray_of_resolveStrict h
  rw [expand_of_empty h, if_pos hkeeps]
  exact ⟨_, rfl, shows_override hindex hmeets none (fun _ => hunique) .null⟩

/-! ## Counting -/

/-- The number of items of the array that a path names through documents. -/
def itemCount (path : FieldPath) (document : Fields) : Nat :=
  match resolveStrict document path with
  | some (.array items) => items.length
  | _ => 0

theorem length_expand (hkeeps : unwind.keepsEmpty = false)
    (h : ∃ items, resolveStrict document unwind.path = some (.array items)) :
    (unwind.expand document).length = itemCount unwind.path document := by
  obtain ⟨items, hitems⟩ := h
  unfold itemCount
  rw [hitems]
  by_cases hempty : items = []
  · subst hempty
    rw [expand_of_empty hitems, hkeeps]
    rfl
  · exact length_expand_of_items hitems hempty

/-- **An unwind makes as many documents of a list as the arrays have items.** -/
theorem length_onList_unwind (hkeeps : unwind.keepsEmpty = false) {documents : List Fields}
    (h : ∀ document ∈ documents, ∃ items, resolveStrict document unwind.path = some (.array items))
    (snapshots : Snapshots) : ((Stage.unwind unwind).onList snapshots documents).length =
      (documents.map (itemCount unwind.path)).sum := by
  show (documents.flatMap unwind.expand).length = _
  rw [List.length_flatMap]
  refine congrArg List.sum (List.map_congr_left ?_)
  intro document hm
  exact length_expand hkeeps (h document hm)

/-! ## The whole -/

/-- What an unwind makes of a document: of an array with items one document for each, in their order; of an
empty array nothing, or one document without it; and otherwise the document, with null for the place of an
item. -/
structure Expands (unwind : Unwind) (document : Fields) : Prop where
  ofItems (items : List Value) (h : resolveStrict document unwind.path = some (.array items))
    (hsome : items ≠ []) : (unwind.expand document).length = items.length ∧
      ∀ place (hplace : place < items.length), ∃ out, (unwind.expand document)[place]? = some out ∧
        unwind.Shows document (some items[place]) (.int64 (Int64.ofNat place)) out
  ofEmpty (h : resolveStrict document unwind.path = some (.array [])) :
    (unwind.keepsEmpty = false → unwind.expand document = []) ∧
    (unwind.keepsEmpty = true →
      ∃ out, unwind.expand document = [out] ∧ unwind.Shows document none .null out)
  ofOther (h : ∀ items, resolveStrict document unwind.path ≠ some (.array items)) :
    (unwind.indexPath = none → unwind.expand document = [document]) ∧
    ∀ index ∈ unwind.indexPath, unwind.expand document = [setPath document index .null] ∧
      resolveStrict (setPath document index .null) index = some .null ∧
      ∀ path : FieldPath, Apart path.segments index.segments →
        resolveStrict (setPath document index .null) path = resolveStrict document path

/-- **Unwinding loses and invents nothing.** Let the place of an item be written apart from the item, and let
a document name nothing twice. Then an unwind expands it: the items of an array are read in their places, one
in each document that is made, beside their numbers and all that was there before. And where all documents have
an array, and empty ones are not kept, as many documents come out of the stage as the arrays have items in
all. -/
theorem expands_exactly (unwind : Unwind) :
    (unwind.IndexApart → ∀ document : Fields, (Value.document document).namesOnce = true →
      unwind.Expands document) ∧
    ∀ (snapshots : Snapshots) (source : Feed) (documents : List Fields), source.PullsTo documents →
      unwind.keepsEmpty = false →
      (∀ document ∈ documents, ∃ items, resolveStrict document unwind.path = some (.array items)) →
      ∃ made, ((Stage.unwind unwind).onFeed snapshots source).PullsTo made ∧
        made.length = (documents.map (itemCount unwind.path)).sum := by
  constructor
  · intro hindex document hnames
    refine ⟨?_, ?_, ?_⟩
    · -- an array with items
      intro items hitems hsome
      refine ⟨length_expand_of_items hitems hsome, ?_⟩
      intro place hplace
      exact exists_shows_of_items hindex hitems hplace
    · -- an empty array: the document is kept without it, or not at all
      intro hempty
      constructor
      · intro hkeeps
        rw [expand_of_empty hempty, hkeeps]
        rfl
      · exact exists_shows_of_empty hindex (uniqueAlong_of_namesOnce hnames _) hempty
    · -- no array: nothing but the number of the item is written
      intro hother
      rw [expand_of_other hother]
      constructor
      · intro hnone
        rw [withIndex, hnone]
      · intro index hm
        rw [withIndex, Option.mem_def.mp hm]
        refine ⟨rfl, ?_, ?_⟩
        · exact resolveStrict_override_self index.nonempty (some .null) nofun
        · intro path hapart
          exact resolveStrict_override_of_apart hapart (some .null) document
  · intro snapshots source documents hsource hkeeps harrays
    refine ⟨(Stage.unwind unwind).onList snapshots documents, ?_, length_onList_unwind hkeeps harrays snapshots⟩
    rw [Feed.pullsTo_iff, Stage.toList_onFeed, Feed.pullsTo_iff.mp hsource]

/-- The items of an order are counted beside them; no order is lost, and an empty one is kept without its
items. -/
theorem expands_exactly_orders :
    let unwind : Unwind := ⟨⟨["order", "items"], by simp⟩, true, some ⟨["order", "at"], by simp⟩⟩
    let document : Fields := [("order", .document [("items", .array [.int32 10, .string "x"])]), ("n", .null)]
    let empty : Fields := [("order", .document [("items", .array []), ("by", .int32 1)])]
    (∃ out, (unwind.expand document)[1]? = some out ∧
      unwind.Shows document (some (.string "x")) (.int64 1) out) ∧
    ∃ out, unwind.expand empty = [out] ∧ unwind.Shows empty none .null out := by
  intro unwind document empty
  have hindex : unwind.IndexApart := by
    rintro index ⟨⟩
    exact ⟨by decide, by decide⟩
  obtain ⟨hexpands, -⟩ := expands_exactly unwind
  have hitems := (hexpands hindex document (by decide)).ofItems _ rfl (List.cons_ne_nil _ _)
  have hempty := (hexpands hindex empty (by decide)).ofEmpty rfl
  exact ⟨hitems.2 1 (by decide), hempty.2 rfl⟩

end Docstore.Unwind

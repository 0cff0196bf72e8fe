import Docstore.Proofs.Path.Alike
import Mathlib.Data.List.Induction
import Mathlib.Data.List.Basic
import Mathlib.Data.List.Pairwise

/-!
# `Docstore.Proofs.Path.Copy` — several paths copied into one document

Paths of which none is the beginning of another are copied one after the other into an empty document. What
stands under a name in the end is made by the paths that begin with this name, from what the source holds
there: a document of the paths' rests, or one such document for each in an array. So the copy is like the
source along every copied path, and copying the paths from the copy itself gives the copy again.

## Contents
- **Many paths.** `copyAll`; the rests of the paths under one name (`under`).
- **Under one name.** `get?_copyAll_of_end` where a path ends, `get?_copyAll` where all go on.
- **The copy along a path.** `alikeAlong_copyAll`, `copyAll_copyAll`.
- **The order of names.** `names_copyAll_ordered`.
-/

namespace Docstore

variable {name head : String} {rest path : List String} {paths : List (List String)}
  {source out : Fields}

/-! ## Many paths -/

/-- Copies paths from one document into another, one after the other. -/
def copyAll (paths : List (List String)) (source out : Fields) : Fields :=
  paths.foldl (fun out path => copySegments path source out) out

theorem copyAll_concat (paths : List (List String)) (path : List String) (source out : Fields) :
    copyAll (paths ++ [path]) source out = copySegments path source (copyAll paths source out) := by
  unfold copyAll
  rw [List.foldl_append]
  rfl

/-- What remains of a path after its first segment, if that is the given name. -/
def restUnder (name : String) : List String → Option (List String)
  | [] => none
  | head :: rest => if head = name then some rest else none

/-- What remains of the paths that begin with a name. -/
def under (name : String) (paths : List (List String)) : List (List String) :=
  paths.filterMap (restUnder name)

theorem restUnder_eq_some_iff : restUnder name path = some rest ↔ path = name :: rest := by
  cases path with
  | nil => simp [restUnder]
  | cons head more =>
      by_cases hname : head = name
      · simp [restUnder, hname]
      · simp [restUnder, hname]

theorem mem_under : rest ∈ under name paths ↔ name :: rest ∈ paths := by
  unfold under
  simp only [List.mem_filterMap, restUnder_eq_some_iff, exists_eq_right]

theorem under_concat_self : under head (paths ++ [head :: rest]) = under head paths ++ [rest] := by
  simp [under, restUnder]

theorem under_concat_of_ne (h : path.head? ≠ some name) :
    under name (paths ++ [path]) = under name paths := by
  have hrest : restUnder name path = none := by
    cases path with
    | nil => rfl
    | cons head rest => exact if_neg fun hname => h (congrArg some hname)
  simp [under, hrest]

/-- Paths that are apart stay apart after a common first segment. -/
theorem pairwise_apart_under (h : paths.Pairwise Apart) (name : String) :
    (under name paths).Pairwise Apart := by
  refine h.filterMap (restUnder name) fun path other hapart rest hrest rest' hrest' => ?_
  rw [restUnder_eq_some_iff] at hrest hrest'
  rw [hrest, hrest'] at hapart
  exact Apart.cons_iff.mp hapart

/-- Of paths that are apart, two that begin with the same name both go on, or are one. -/
theorem ne_nil_of_mem_under (h : paths.Pairwise Apart) (hrest : rest ∈ under name paths) (hne : rest ≠ [])
    {more : List String} (hmore : more ∈ under name paths) : more ≠ [] := by
  by_cases hsame : more = rest
  · rwa [hsame]
  · exact ((pairwise_apart_under h name).forall hmore hrest hsame).ne_nil

/-! ## Under one name -/

/-- Copying a path writes nothing but the field of its first segment. -/
theorem copySegments_cases (head : String) (rest : List String) (source out : Fields) :
    copySegments (head :: rest) source out = out ∨
      ∃ value, copySegments (head :: rest) source out = Entries.insert head value out := by
  cases rest with
  | nil =>
      rw [copySegments]
      split
      · next value _ => exact .inr ⟨value, rfl⟩
      · exact .inl rfl
  | cons next rest =>
      rw [copySegments_inside]
      cases inside head source with
      | one inner => exact .inr ⟨_, rfl⟩
      | many documents => exact .inr ⟨_, rfl⟩
      | nothing => exact .inl rfl

/-- A copy changes nothing but the field that its path begins with. -/
theorem get?_copySegments_of_ne (h : path.head? ≠ some name) :
    Entries.get? name (copySegments path source out) = Entries.get? name out := by
  cases path with
  | nil => rfl
  | cons head rest =>
      rcases copySegments_cases head rest source out with hout | ⟨value, hout⟩
      · rw [hout]
      · rw [hout, Entries.get?_insert_of_ne fun hname => h (congrArg some hname.symm)]

theorem get?_copyAll_of_ne (h : ∀ path ∈ paths, path.head? ≠ some name) :
    Entries.get? name (copyAll paths source out) = Entries.get? name out := by
  induction paths generalizing out with
  | nil => rfl
  | cons path paths ih =>
      obtain ⟨hpath, hpaths⟩ := List.forall_mem_cons.mp h
      exact (ih hpaths).trans (get?_copySegments_of_ne hpath)

/-- Where a path ends, no other one begins, and the copy holds what the source holds. -/
theorem get?_copyAll_of_end (h : paths.Pairwise Apart) (hm : [name] ∈ paths) :
    Entries.get? name (copyAll paths source []) = Entries.get? name source := by
  obtain ⟨before, after, rfl⟩ := List.append_of_mem hm
  -- a path that begins with the name and is apart from it would have to end there too
  have hbeside : ∀ path, Apart path [name] → path.head? ≠ some name := by
    rintro (_ | ⟨head, rest⟩) hapart hhead
    · exact nomatch hhead
    · obtain rfl : head = name := Option.some.inj hhead
      exact hapart.2 (by simp)
  obtain ⟨-, hafter, hbefore⟩ := List.pairwise_append.mp h
  obtain ⟨hafter, -⟩ := List.pairwise_cons.mp hafter
  have hnew : Entries.get? name (copyAll before source []) = none :=
    get?_copyAll_of_ne fun path hpath =>
      hbeside path (hbefore path hpath [name] (List.mem_cons_self ..))
  have hsplit : copyAll (before ++ [name] :: after) source [] =
      copyAll after source (copySegments [name] source (copyAll before source [])) := by
    unfold copyAll
    rw [List.foldl_append, List.foldl_cons]
  rw [hsplit, get?_copyAll_of_ne fun path hpath => hbeside path (hafter path hpath).symm, copySegments]
  cases Entries.get? name source with
  | none => exact hnew
  | some value => exact Entries.get?_insert_self ..

/-- What the rests of paths make of what a field holds. -/
def gathered (rests : List (List String)) : Inside → Option Value
  | .one inner => some (.document (copyAll rests inner []))
  | .many documents =>
    some (.array (documents.map fun inner => .document (copyAll rests inner [])))
  | .nothing => none

/-- The documents of an array are copied onto those that were built from them before. -/
theorem copyItems_onto (copy : Fields → Fields → Fields) (built : Fields → Fields)
    (documents : List Fields) :
    copyItems copy (documents.map .document) (documents.map fun inner => .document (built inner)) =
      documents.map fun inner => .document (copy inner (built inner)) := by
  induction documents with
  | nil => rfl
  | cons inner documents ih => exact congrArg _ ih

/-- Copies of items into an empty array make a new document of each. -/
theorem copyItems_fresh (copy : Fields → Fields → Fields) (documents : List Fields) :
    copyItems copy (documents.map .document) [] =
      documents.map fun inner => .document (copy inner []) := by
  induction documents with
  | nil => rfl
  | cons inner documents ih => exact congrArg _ ih

/-- **What stands under a name** where all paths that begin with it go on: what their rests make of what the
source holds there. -/
theorem get?_copyAll (h : ∀ rest ∈ under name paths, rest ≠ []) :
    Entries.get? name (copyAll paths source []) =
      if under name paths = [] then none else gathered (under name paths) (inside name source) := by
  induction paths using List.reverseRecOn with
  | nil => rfl
  | append_singleton paths path ih =>
      rw [copyAll_concat]
      by_cases hhead : path.head? = some name
      · obtain ⟨rest, rfl⟩ := List.head?_eq_some_iff.mp hhead
        rw [under_concat_self] at h ⊢
        replace ih := ih fun rest hm => h rest (List.mem_append_left _ hm)
        obtain ⟨next, rest, rfl⟩ := List.exists_cons_of_ne_nil (h rest (by simp))
        rw [copySegments_inside, if_neg (by simp)]
        -- the rests before made a document or an array of documents, which now becomes the next one
        cases hinside : inside name source with
        | one inner =>
            have hchild : childFields name (copyAll paths source []) =
                copyAll (under name paths) inner [] := by
              rw [hinside] at ih
              unfold childFields
              rw [ih]
              split_ifs with hnil
              · rw [hnil]; rfl
              · rfl
            show Entries.get? name (Entries.insert name _ _) = some (Value.document _)
            rw [Entries.get?_insert_self, hchild, copyAll_concat]
        | many documents =>
            have hitems : copyItems (copySegments (next :: rest)) (documents.map .document)
                (childItems name (copyAll paths source [])) =
                documents.map fun inner => .document
                  (copySegments (next :: rest) inner (copyAll (under name paths) inner [])) := by
              rw [hinside] at ih
              unfold childItems
              rw [ih]
              split_ifs with hnil
              · rw [hnil]
                exact copyItems_fresh _ documents
              · exact copyItems_onto _ (fun inner => copyAll (under name paths) inner []) documents
            show Entries.get? name (Entries.insert name _ _) = some (Value.array _)
            rw [Entries.get?_insert_self, hitems]
            simp only [copyAll_concat]
        | nothing =>
            rw [hinside] at ih
            show Entries.get? name (copyAll paths source []) = none
            rw [ih]
            split_ifs <;> rfl
      · rw [under_concat_of_ne hhead] at h ⊢
        rw [get?_copySegments_of_ne hhead]
        exact ih h

/-! ## The copy along a path -/

/-- **The copy is like the source along every copied path.** -/
theorem alikeAlong_copyAll (h : paths.Pairwise Apart) (hm : path ∈ paths) :
    AlikeAlong path (copyAll paths source []) source := by
  -- on the path; below its first segment the copied paths are the rests under that segment
  induction path generalizing paths source with
  | nil => trivial
  | cons head rest ih =>
      cases rest with
      | nil => exact get?_copyAll_of_end h hm
      | cons next rest =>
          have hrest : next :: rest ∈ under head paths := mem_under.mpr hm
          have hcopy := @get?_copyAll head paths source fun more hmore =>
            ne_nil_of_mem_under h hrest (by simp) hmore
          rw [if_neg (List.ne_nil_of_mem hrest)] at hcopy
          have hinner : ∀ inner, AlikeAlong (next :: rest) (copyAll (under head paths) inner []) inner :=
            fun inner => ih (pairwise_apart_under h head) hrest
          rw [AlikeAlong.cons_iff]
          cases hinside : inside head source with
          | one inner =>
              rw [hinside] at hcopy
              rw [inside_of_get? hcopy]
              exact .one (hinner inner)
          | many documents =>
              rw [hinside] at hcopy
              rw [inside_of_get? hcopy]
              have hdocuments : (documents.map fun inner =>
                  Value.document (copyAll (under head paths) inner [])).filterMap Value.fields? =
                  documents.map fun inner => copyAll (under head paths) inner [] := by
                rw [List.filterMap_map]
                exact congrFun List.filterMap_eq_map documents
              show Inside.Alike _ (.many _) _
              rw [hdocuments]
              exact .many (List.forall₂_map_left_iff.mpr
                (List.forall₂_same.mpr fun inner _ => hinner inner))
          | nothing =>
              rw [hinside] at hcopy
              rw [inside_of_missing hcopy]
              exact .nothing

/-- **Copying from the copy** is copying from the source. -/
theorem copyAll_copyAll (h : paths.Pairwise Apart) (source out : Fields) :
    copyAll paths (copyAll paths source []) out = copyAll paths source out :=
  List.foldl_ext _ _ _ fun out _ hm => (alikeAlong_copyAll h hm).copy out

/-! ## The order of names -/

/-- The first segments of some paths, in order. -/
def heads (paths : List (List String)) : List String := paths.filterMap List.head?

/-- Where all paths that begin with a name go on, and nothing stands under it in the copy, the source holds
nothing to go on with. -/
theorem inside_eq_nothing (hgo : ∀ rest ∈ under name paths, rest ≠ []) (hlisted : under name paths ≠ [])
    (hmissing : name ∉ Entries.names (copyAll paths source [])) : inside name source = .nothing := by
  have hcopy := @get?_copyAll name paths source hgo
  rw [if_neg hlisted, Entries.get?_eq_none_iff.mpr hmissing] at hcopy
  cases hinside : inside name source with
  | nothing => rfl
  | one inner => rw [hinside] at hcopy; exact nomatch hcopy
  | many documents => rw [hinside] at hcopy; exact nomatch hcopy

/-- A name that a path writes anew was not listed before. -/
theorem notMem_heads_of_new (h : (paths ++ [head :: rest]).Pairwise Apart) {value : Value}
    (hwrites : copySegments (head :: rest) source (copyAll paths source []) =
      Entries.insert head value (copyAll paths source []))
    (hnew : head ∉ Entries.names (copyAll paths source [])) : head ∉ heads paths := by
  intro hlisted
  obtain ⟨hbefore, -, hlast⟩ := List.pairwise_append.mp h
  obtain ⟨path, hm, hhead⟩ := List.mem_filterMap.mp hlisted
  obtain ⟨earlier, rfl⟩ := List.head?_eq_some_iff.mp hhead
  have hapart := Apart.cons_iff.mp (hlast _ hm _ (List.mem_singleton.mpr rfl))
  -- both paths go on below the name, so the source has to hold something there
  have hunder := mem_under.mpr hm
  have hnothing := inside_eq_nothing (fun _ => ne_nil_of_mem_under hbefore hunder hapart.ne_nil)
    (List.ne_nil_of_mem hunder) hnew
  obtain ⟨next, rest, rfl⟩ := List.exists_cons_of_ne_nil hapart.symm.ne_nil
  rw [copySegments_inside, hnothing] at hwrites
  have hnames := congrArg Entries.names hwrites
  rw [Entries.names_insert, if_neg hnew] at hnames
  simp at hnames

/-- **Names come in the order in which they are first listed.** A name of the copy is the first segment of
some path, and of two names the earlier one is listed earlier. -/
theorem names_copyAll_ordered (h : paths.Pairwise Apart) :
    (∀ name ∈ Entries.names (copyAll paths source []), name ∈ heads paths) ∧
    (Entries.names (copyAll paths source [])).Pairwise fun a b =>
      (heads paths).idxOf a < (heads paths).idxOf b := by
  induction paths using List.reverseRecOn with
  | nil => exact ⟨nofun, .nil⟩
  | append_singleton paths path ih =>
      obtain ⟨hlisted, hordered⟩ := ih (List.pairwise_append.mp h).1
      rw [copyAll_concat]
      cases path with
      | nil =>
          have hheads : heads (paths ++ [[]]) = heads paths := by simp [heads]
          rw [hheads]
          exact ⟨hlisted, hordered⟩
      | cons head rest =>
          have hheads : heads (paths ++ [head :: rest]) = heads paths ++ [head] := by simp [heads]
          rw [hheads]
          -- the names that are there keep their places among the first segments
          have hlisted' : ∀ name ∈ Entries.names (copyAll paths source []),
              name ∈ heads paths ++ [head] := fun name hm => List.mem_append_left _ (hlisted name hm)
          have hordered' := Entries.pairwise_idxOf_append [head] hlisted hordered
          rcases copySegments_cases head rest source (copyAll paths source []) with hout | ⟨value, hout⟩
          · rw [hout]
            exact ⟨hlisted', hordered'⟩
          · by_cases hmem : head ∈ Entries.names (copyAll paths source [])
            · rw [hout, Entries.names_insert, if_pos hmem]
              exact ⟨hlisted', hordered'⟩
            · have hnew := notMem_heads_of_new h hout hmem
              rw [hout, Entries.names_insert, if_neg hmem]
              refine ⟨fun name hm => ?_, Entries.pairwise_idxOf_concat hlisted hnew hordered⟩
              rcases List.mem_append.mp hm with hm | hm
              · exact hlisted' name hm
              · exact List.mem_append_right _ hm

end Docstore

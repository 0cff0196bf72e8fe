import Docstore.Proofs.Path.Override
import Docstore.Proofs.Pipeline.Execution

/-!
# `Docstore.Proofs.Pipeline.Projection` — what a projection keeps, computes and removes

An accepted projection lists paths of which none is the beginning of another (`pairwise_apart`). So what it
does at one listed path is disturbed by what it does at the others only in one way: a copied path puts an
array over a computed field if both share a way to an array of the document.

## Contents
- **Accepted projections.** `pairwise_apart`, from the check of the listed fields.
- **Only copies.** `apply_eq_copyAll`; `kept_fields_exact`: what is copied reads as before, in the order of
  the list, and a second projection changes nothing.
- **Copies and computed fields.** `collect_of_apart` is one step, `collectAll_of_apart` a run of steps;
  `computed_field_survives` says when a computed field is there in the end.
- **Only removals.** `override_of_apart` and `overrideAll_of_apart` likewise; `removed_fields_gone` says what
  a removal takes away, and that everything else reads as before.
-/

namespace Docstore

theorem FieldPath.collides_eq_false_iff {a b : FieldPath} :
    a.collides b = false ↔ Apart a.segments b.segments := by
  unfold FieldPath.collides Apart
  rw [Bool.or_eq_false_iff, ← Bool.not_eq_true, ← Bool.not_eq_true, List.isPrefixOf_iff_prefix,
    List.isPrefixOf_iff_prefix]

namespace Projection

variable {projection : Projection} {keepsOthers : Bool} {path : FieldPath} {field : ProjectedField}
  {fields before after : List (FieldPath × ProjectedField)} {expression : Expression}
  {document out : Fields}

/-! ## Accepted projections -/

theorem fieldFault?_apart {earlier : List FieldPath}
    (h : fieldFault? keepsOthers earlier path field = none) :
    ∀ other ∈ earlier, Apart other.segments path.segments := by
  intro other hm
  unfold fieldFault? at h
  split_ifs at h
  rw [Option.map_eq_none_iff, List.find?_eq_none] at h
  have hcollides : path.collides other = false := by simpa using h other hm
  exact (FieldPath.collides_eq_false_iff.mp hcollides).symm

/-- The check goes through only if each path is apart from those before it. -/
theorem pairwise_apart_of_fieldsFault? {earlier : List FieldPath}
    (h : fieldsFault? keepsOthers earlier fields = none) :
    fields.Pairwise (fun a b => Apart a.1.segments b.1.segments) ∧
      ∀ listed ∈ fields, ∀ other ∈ earlier, Apart other.segments listed.1.segments := by
  induction fields generalizing earlier with
  | nil => exact ⟨.nil, nofun⟩
  | cons first rest ih =>
      obtain ⟨path, field⟩ := first
      obtain ⟨hfirst, hrest⟩ := Option.or_eq_none_iff.mp h
      obtain ⟨hpairwise, hearlier⟩ := ih hrest
      constructor
      · refine List.pairwise_cons.mpr ⟨?_, hpairwise⟩
        intro listed hm
        exact hearlier listed hm path (by simp)
      · intro listed hm other hother
        rcases List.mem_cons.mp hm with rfl | hm
        · exact fieldFault?_apart hfirst other hother
        · exact hearlier listed hm other (List.mem_append_left _ hother)

/-- **Of the paths that an accepted projection lists none is the beginning of another.** -/
theorem pairwise_apart (h : projection.fault? = none) :
    projection.fields.Pairwise fun a b => Apart a.1.segments b.1.segments := by
  unfold fault? at h
  split_ifs at h
  exact (pairwise_apart_of_fieldsFault? h).1

/-! ## Only copies -/

/-- Adds listed fields to a new document, one after the other. -/
def collectAll (document out : Fields) (fields : List (FieldPath × ProjectedField)) : Fields :=
  fields.foldl (fun out (path, field) => collect document out path field) out

theorem apply_eq_collectAll (hmode : projection.keepsOthers = false) (document : Fields) :
    projection.apply document = collectAll document [] projection.fields := by
  unfold apply
  rw [if_neg (by simp [hmode])]
  rfl

theorem collectAll_append (document out : Fields) (before after : List (FieldPath × ProjectedField)) :
    collectAll document out (before ++ after) = collectAll document (collectAll document out before) after :=
  List.foldl_append

/-- The path of a field that is copied. -/
def keptPath? : FieldPath × ProjectedField → Option (List String)
  | (path, .kept) => some path.segments
  | _ => none

/-- The paths that are copied, in the order of the list. -/
def keptPaths (fields : List (FieldPath × ProjectedField)) : List (List String) :=
  fields.filterMap keptPath?

theorem mem_keptPaths (h : (path, ProjectedField.kept) ∈ fields) : path.segments ∈ keptPaths fields :=
  List.mem_filterMap.mpr ⟨_, h, rfl⟩

theorem segments_of_keptPath? {listed : FieldPath × ProjectedField} {segments : List String}
    (h : keptPath? listed = some segments) : listed.1.segments = segments := by
  obtain ⟨path, field⟩ := listed
  cases field with
  | kept => exact Option.some.inj h
  | _ => exact nomatch h

/-- Paths that are copied are apart if all listed paths are. -/
theorem pairwise_apart_keptPaths (h : fields.Pairwise fun a b => Apart a.1.segments b.1.segments) :
    (keptPaths fields).Pairwise Apart := by
  refine h.filterMap keptPath? ?_
  intro a b hapart p hp q hq
  rwa [segments_of_keptPath? hp, segments_of_keptPath? hq] at hapart

/-- Without computed fields a new document is made by copying paths. -/
theorem collectAll_eq_copyAll (hcopies : ∀ path expression, (path, .computed expression) ∉ fields)
    (document out : Fields) :
    collectAll document out fields = copyAll (keptPaths fields) document out := by
  induction fields generalizing out with
  | nil => rfl
  | cons first rest ih =>
      obtain ⟨path, field⟩ := first
      have hrest : ∀ path expression, (path, .computed expression) ∉ rest :=
        fun path expression hm => hcopies path expression (List.mem_cons_of_mem _ hm)
      cases field with
      | kept => exact ih hrest (copyPath document out path)
      | removed => exact ih hrest out
      | computed expression => exact absurd (List.mem_cons_self ..) (hcopies path expression)

/-- **A projection that only keeps fields is exact.** Let a projection of an accepted list of stages make a
new document, and compute nothing. Then every kept path reads as in the document, with its fan-out over
arrays; the names of the new document come in the order in which kept paths first begin with them; and to
project once more changes nothing. -/
theorem kept_fields_exact {stages : List Stage} {pipeline : Pipeline}
    (h : Pipeline.ofStages stages = .ok pipeline) (hm : .project projection ∈ stages)
    (hmode : projection.keepsOthers = false)
    (hcopies : ∀ path expression, (path, .computed expression) ∉ projection.fields) (document : Fields) :
    (∀ path, (path, ProjectedField.kept) ∈ projection.fields →
      resolve (projection.apply document) path = resolve document path) ∧
    (∀ name ∈ Entries.names (projection.apply document), name ∈ heads (keptPaths projection.fields)) ∧
    ((Entries.names (projection.apply document)).Pairwise fun a b =>
      (heads (keptPaths projection.fields)).idxOf a < (heads (keptPaths projection.fields)).idxOf b) ∧
    projection.apply (projection.apply document) = projection.apply document := by
  have hfault : projection.fault? = none := Pipeline.fault?_of_accepted h hm
  have hapart := pairwise_apart_keptPaths (pairwise_apart hfault)
  -- nothing is computed, so the projection is nothing but copies into an empty document
  have happly : ∀ document, projection.apply document =
      copyAll (keptPaths projection.fields) document [] := by
    intro document
    rw [apply_eq_collectAll hmode, collectAll_eq_copyAll hcopies]
  obtain ⟨hlisted, hordered⟩ := @names_copyAll_ordered (keptPaths projection.fields) document hapart
  rw [happly, happly]
  refine ⟨?_, hlisted, hordered, copyAll_copyAll hapart document []⟩
  intro path hkept
  exact (alikeAlong_copyAll hapart (mem_keptPaths hkept)).resolve false

/-- Two fields of the items and a status, without the identifier. -/
theorem kept_fields_exact_items :
    let items : FieldPath := ⟨["items", "count"], by simp⟩
    let projection : Projection := ⟨false, [(⟨["items", "name"], by simp⟩, .kept),
      (⟨["_id"], by simp⟩, .removed), (⟨["status"], by simp⟩, .kept), (items, .kept)]⟩
    let document : Fields := [("_id", .int32 7), ("status", .string "open"), ("items", .array [
      .document [("name", .string "ink"), ("price", .int32 3), ("count", .int32 1)], .int32 5,
      .document [("count", .int32 2)]])]
    projection.apply document = [("items", .array [
      .document [("name", .string "ink"), ("count", .int32 1)], .document [("count", .int32 2)]]),
      ("status", .string "open")] ∧
    resolve (projection.apply document) items = some (.array [.int32 1, .int32 2]) ∧
    projection.apply (projection.apply document) = projection.apply document := by
  intro items projection document
  have haccepted : Pipeline.ofStages [.project projection] = .ok ⟨[.project projection], _⟩ := rfl
  have hcopies : ∀ path expression, (path, .computed expression) ∉ projection.fields := by
    simp [projection]
  obtain ⟨hkept, -, -, hagain⟩ :=
    kept_fields_exact haccepted (List.mem_singleton.mpr rfl) rfl hcopies document
  exact ⟨rfl, hkept items (by simp [projection]), hagain⟩

/-! ## Copies and computed fields -/

/-- Does a listed copy put an array over a path? It does where both share a way to an array. -/
def Covers (document : Fields) (listed : FieldPath × ProjectedField) (path : FieldPath) : Prop :=
  listed.2 = .kept ∧ SharesArray path.segments listed.1.segments document

variable {listed : FieldPath × ProjectedField}

/-- A copy that covers a path leaves nothing there. -/
theorem collect_of_covers (hapart : Apart path.segments listed.1.segments)
    (h : Covers document listed path) (out : Fields) :
    resolveStrict (collect document out listed.1 listed.2) path = none := by
  obtain ⟨hkept, hshares⟩ := h
  rw [hkept]
  exact resolveStrict_copySegments_of_shares hapart hshares out

/-- An expression that comes to nothing adds nothing. -/
theorem collect_of_missing (h : expression.eval document = none) (out : Fields) (path : FieldPath) :
    collect document out path (.computed expression) = out := by
  simp only [collect, h]

/-- An expression that comes to a value writes it at its path. -/
theorem collect_of_value {value : Value} (h : expression.eval document = some value) (out : Fields)
    (path : FieldPath) : collect document out path (.computed expression) = setPath out path value := by
  simp only [collect, h]

/-- Every other field leaves alone what stands at a path apart from its own. -/
theorem collect_of_not_covers (hapart : Apart path.segments listed.1.segments)
    (h : ¬Covers document listed path) (out : Fields) :
    resolveStrict (collect document out listed.1 listed.2) path = resolveStrict out path := by
  obtain ⟨other, field⟩ := listed
  cases field with
  | kept =>
      have hshares : ¬SharesArray path.segments other.segments document := fun hshares => h ⟨rfl, hshares⟩
      exact resolveStrict_copySegments_of_not_shares hapart hshares out
  | removed => rfl
  | computed expression =>
      cases hvalue : expression.eval document with
      | none => rw [collect_of_missing hvalue]
      | some value =>
          rw [collect_of_value hvalue]
          exact resolveStrict_override_of_apart hapart (some value) out

/-- What stands nowhere is not brought about by fields apart from it. -/
theorem collectAll_of_none (hapart : ∀ listed ∈ fields, Apart path.segments listed.1.segments)
    (h : resolveStrict out path = none) : resolveStrict (collectAll document out fields) path = none := by
  induction fields generalizing out with
  | nil => exact h
  | cons first rest ih =>
      obtain ⟨hfirst, hrest⟩ := List.forall_mem_cons.mp hapart
      refine ih hrest ?_
      by_cases hcovers : Covers document first path
      · exact collect_of_covers hfirst hcovers out
      · exact (collect_of_not_covers hfirst hcovers out).trans h

/-- **Fields apart from a path, none of which covers it,** leave alone what stands there. -/
theorem collectAll_of_not_covers (hapart : ∀ listed ∈ fields, Apart path.segments listed.1.segments)
    (h : ∀ listed ∈ fields, ¬Covers document listed path) (out : Fields) :
    resolveStrict (collectAll document out fields) path = resolveStrict out path := by
  induction fields generalizing out with
  | nil => rfl
  | cons first rest ih =>
      obtain ⟨hfirst, hrest⟩ := List.forall_mem_cons.mp hapart
      obtain ⟨hcovers, hothers⟩ := List.forall_mem_cons.mp h
      exact (ih hrest hothers _).trans (collect_of_not_covers hfirst hcovers out)

/-- **Fields apart from a path, one of which covers it,** leave nothing there. -/
theorem collectAll_of_covers (hapart : ∀ listed ∈ fields, Apart path.segments listed.1.segments)
    (hm : listed ∈ fields) (h : Covers document listed path) (out : Fields) :
    resolveStrict (collectAll document out fields) path = none := by
  obtain ⟨before, after, rfl⟩ := List.append_of_mem hm
  rw [List.forall_mem_append, List.forall_mem_cons] at hapart
  obtain ⟨-, hlisted, hafter⟩ := hapart
  rw [collectAll_append]
  show resolveStrict (collectAll document (collect document _ listed.1 listed.2) after) path = none
  exact collectAll_of_none hafter (collect_of_covers hlisted h _)

/-- The field that is computed at a path is there right afterwards, unless its value is missing. -/
theorem collect_computed_self (h : resolveStrict out path = none) :
    resolveStrict (collect document out path (.computed expression)) path = expression.eval document := by
  cases hvalue : expression.eval document with
  | none => rw [collect_of_missing hvalue, h]
  | some value =>
      rw [collect_of_value hvalue]
      exact resolveStrict_override_self path.nonempty (some value) nofun

/-- **When a computed field is there in the end.** Let a projection of an accepted list of stages make a new
document and compute a field among others. If a copy that is listed later covers its path, nothing is left
there. If none does, the field holds exactly the value that the expression has on the document, missing if
that is missing. So a missing value is missing in any case. -/
theorem computed_field_survives {stages : List Stage} {pipeline : Pipeline}
    (h : Pipeline.ofStages stages = .ok pipeline) (hm : .project projection ∈ stages)
    (hmode : projection.keepsOthers = false)
    (hfields : projection.fields = before ++ (path, .computed expression) :: after) (document : Fields) :
    ((∃ listed ∈ after, Covers document listed path) →
      resolveStrict (projection.apply document) path = none) ∧
    ((∀ listed ∈ after, ¬Covers document listed path) →
      resolveStrict (projection.apply document) path = expression.eval document) ∧
    (expression.eval document = none → resolveStrict (projection.apply document) path = none) := by
  have hfault : projection.fault? = none := Pipeline.fault?_of_accepted h hm
  have hapart := pairwise_apart hfault
  rw [hfields] at hapart
  obtain ⟨-, hself, hbefore⟩ := List.pairwise_append.mp hapart
  have hafter : ∀ listed ∈ after, Apart path.segments listed.1.segments :=
    (List.pairwise_cons.mp hself).1
  have hearlier : ∀ listed ∈ before, Apart path.segments listed.1.segments :=
    fun listed hlisted => (hbefore listed hlisted _ (List.mem_cons_self ..)).symm
  -- the fields before it bring nothing to the path, so after its own step it has the value or is missing
  have hempty : resolveStrict (collectAll document [] before) path = none :=
    collectAll_of_none hearlier (resolveStrictSegments_empty path.segments)
  have hcomputed : resolveStrict (collect document (collectAll document [] before) path
      (.computed expression)) path = expression.eval document := collect_computed_self hempty
  have happly : projection.apply document = collectAll document
      (collect document (collectAll document [] before) path (.computed expression)) after := by
    rw [apply_eq_collectAll hmode, hfields, collectAll_append]
    rfl
  rw [happly]
  refine ⟨?_, ?_, ?_⟩
  · rintro ⟨listed, hlisted, hcovers⟩
    exact collectAll_of_covers hafter hlisted hcovers _
  · intro hcovers
    rw [collectAll_of_not_covers hafter hcovers, hcomputed]
  · intro hmissing
    exact collectAll_of_none hafter (hcomputed.trans hmissing)

/-- A computed field beside a copied one inside a document. -/
theorem computed_field_survives_document :
    let computed : FieldPath := ⟨["a", "b"], by simp⟩
    let copied : FieldPath := ⟨["a", "c"], by simp⟩
    let projection : Projection := ⟨false, [(computed, .computed (.field ⟨["n"], by simp⟩)), (copied, .kept)]⟩
    let document : Fields := [("n", .int32 1), ("a", .document [("b", .null), ("c", .int32 2)])]
    resolveStrict (projection.apply document) computed = some (.int32 1) := by
  intro computed copied projection document
  have haccepted : Pipeline.ofStages [.project projection] = .ok ⟨[.project projection], _⟩ := rfl
  have hcovers : ∀ listed ∈ [(copied, ProjectedField.kept)], ¬Covers document listed computed := by
    intro listed hlisted
    obtain rfl := List.mem_singleton.mp hlisted
    rintro ⟨-, hshares⟩
    rcases sharesArray_cons_iff.mp hshares with ⟨_, hmany⟩ | ⟨_, -, hinner⟩
    · exact nomatch hmany
    · exact not_sharesArray_of_ne (by decide) hinner
  have hfields : projection.fields = [] ++
      (computed, .computed (.field ⟨["n"], by simp⟩)) :: [(copied, .kept)] := rfl
  obtain ⟨-, hsurvives, -⟩ :=
    computed_field_survives haccepted (List.mem_singleton.mpr rfl) rfl hfields document
  exact hsurvives hcovers

/-- A copy that goes through an array takes the place of a field computed before it. -/
theorem computed_field_covered_by_array :
    let computed : FieldPath := ⟨["a", "b"], by simp⟩
    let expression : Expression := .literal (.int32 1)
    let projection : Projection :=
      ⟨false, [(computed, .computed expression), (⟨["a", "c"], by simp⟩, .kept)]⟩
    let document : Fields := [("a", .array [.document [("c", .int32 2)]])]
    (Stage.project projection).fault? = none ∧ expression.eval document = some (.int32 1) ∧
      projection.apply document = document ∧
      resolveStrict (projection.apply document) computed = none :=
  ⟨rfl, rfl, rfl, rfl⟩

/-! ## Only removals -/

/-- The listed paths. -/
def listedPaths (fields : List (FieldPath × ProjectedField)) : List (List String) :=
  fields.map fun listed => listed.1.segments

/-- A document whose listed fields are all removed is what is left of it. -/
theorem apply_eq_removeAll (hmode : projection.keepsOthers = true)
    (hremoved : ∀ listed ∈ projection.fields, listed.2 = .removed) (document : Fields) :
    projection.apply document = removeAll (listedPaths projection.fields) document := by
  unfold apply listedPaths removeAll
  rw [if_pos hmode, List.foldl_map]
  refine List.foldl_ext _ _ _ ?_
  rintro out ⟨path, field⟩ hlisted
  obtain rfl : field = .removed := hremoved _ hlisted
  exact removePath_eq out path

/-- **What a projection that only removes fields takes away.** Let a projection of an accepted list of stages
keep what is not listed and remove every listed field, from a document that names nothing twice. A removed
path that meets no array is missing afterwards, also where a filter looks; one that meets an array still
reads as in the document. Every path that is neither the beginning nor a continuation of a removed one reads
as in the document. -/
theorem removed_fields_gone {stages : List Stage} {pipeline : Pipeline}
    (h : Pipeline.ofStages stages = .ok pipeline) (hm : .project projection ∈ stages)
    (hmode : projection.keepsOthers = true)
    (hremoved : ∀ listed ∈ projection.fields, listed.2 = .removed) {document : Fields}
    (hnames : (Value.document document).namesOnce = true) :
    (∀ listed ∈ projection.fields,
      (¬MeetsArray listed.1.segments document →
        resolvePresent (projection.apply document) listed.1 = none) ∧
      (MeetsArray listed.1.segments document →
        resolvePresent (projection.apply document) listed.1 = resolvePresent document listed.1)) ∧
    (∀ path : FieldPath, (∀ listed ∈ projection.fields, Apart path.segments listed.1.segments) →
      resolve (projection.apply document) path = resolve document path) := by
  have hfault : projection.fault? = none := Pipeline.fault?_of_accepted h hm
  -- no listed path lies on another, so each removal is seen at its own path alone
  have hapart : (listedPaths projection.fields).Pairwise Apart :=
    List.pairwise_map.mpr (pairwise_apart hfault)
  rw [apply_eq_removeAll hmode hremoved]
  constructor
  · intro listed hlisted
    exact resolveSegments_removeAll hapart (List.mem_map_of_mem hlisted) hnames true
  · intro path hpath
    exact (alikeAlong_removeAll (List.forall_mem_map.mpr hpath) document).resolve false

/-- A field of a document goes, one of the items of an array stays. -/
theorem removed_fields_gone_items :
    let city : FieldPath := ⟨["address", "city"], by simp⟩
    let price : FieldPath := ⟨["items", "price"], by simp⟩
    let projection : Projection := ⟨true, [(city, .removed), (price, .removed)]⟩
    let document : Fields := [("address", .document [("city", .string "x"), ("zip", .int32 1)]),
      ("items", .array [.document [("price", .int32 3)], .document [("name", .string "ink")]])]
    resolvePresent (projection.apply document) city = none ∧
      resolvePresent (projection.apply document) price = some (.array [.int32 3]) ∧
      resolve (projection.apply document) ⟨["address", "zip"], by simp⟩ = some (.int32 1) := by
  intro city price projection document
  have haccepted : Pipeline.ofStages [.project projection] = .ok ⟨[.project projection], _⟩ := rfl
  have hremoved : ∀ listed ∈ projection.fields, listed.2 = .removed := by
    simp [projection]
  have hcity : ¬MeetsArray city.segments document := by
    intro hmeets
    rcases meetsArray_cons_iff.mp hmeets with ⟨_, hmany⟩ | ⟨_, -, hinner⟩
    · exact nomatch hmany
    · exact not_meetsArray_singleton hinner
  have hprice : MeetsArray price.segments document := meetsArray_cons_iff.mpr (.inl ⟨_, rfl⟩)
  have hnames : (Value.document document).namesOnce = true := rfl
  obtain ⟨hgone, hothers⟩ :=
    removed_fields_gone haccepted (List.mem_singleton.mpr rfl) rfl hremoved hnames
  refine ⟨(hgone (city, .removed) (by simp [projection])).1 hcity,
    (hgone (price, .removed) (by simp [projection])).2 hprice, hothers ⟨["address", "zip"], by simp⟩ ?_⟩
  simp [projection, city, price, Apart]

/-- A removed path that leads into an array is still found by a filter. -/
theorem removed_field_stays_in_array :
    let price : FieldPath := ⟨["items", "price"], by simp⟩
    let projection : Projection := ⟨true, [(price, .removed)]⟩
    let document : Fields := [("items", .array [.document [("price", .int32 3)]])]
    (Stage.project projection).fault? = none ∧ projection.apply document = document ∧
      resolvePresent (projection.apply document) price = some (.array [.int32 3]) :=
  ⟨rfl, rfl, rfl⟩

end Projection
end Docstore

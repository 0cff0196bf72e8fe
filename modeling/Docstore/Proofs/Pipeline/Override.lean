import Docstore.Proofs.Pipeline.Projection

/-!
# `Docstore.Proofs.Pipeline.Override` — what a projection that keeps the document changes in it

A projection that keeps what is not listed overrides one path after the other. What it writes is decided
before by the document that came in: `changes` lists the paths and what becomes of them, and applying the
projection is overriding these paths (`apply_eq_overrideAll`). The paths of an accepted projection are apart,
so every listed field is in the end as listed, everything beside them is as it was, and the order of the list
shows in nothing but the order of fields.
-/

namespace Docstore.Projection

variable {projection : Projection} {path : FieldPath} {listed : FieldPath × ProjectedField}
  {entry : List String × Option Value} {expression : Expression}
  {fields fields' : List (FieldPath × ProjectedField)} {document : Fields}

/-! ## Changes -/

/-- What becomes of the path of a listed field, if it is not kept: a value, or nothing. -/
def change? (document : Fields) : FieldPath × ProjectedField → Option (List String × Option Value)
  | (_, .kept) => none
  | (path, .removed) => some (path.segments, none)
  | (path, .computed expression) => some (path.segments, expression.eval document)

/-- The paths that listed fields change and what becomes of them, in the order of the list. -/
def changes (document : Fields) (fields : List (FieldPath × ProjectedField)) :
    List (List String × Option Value) :=
  fields.filterMap (change? document)

theorem segments_of_change? (h : change? document listed = some entry) :
    entry.1 = listed.1.segments ∧ listed.2 ≠ .kept := by
  obtain ⟨path, field⟩ := listed
  cases field with
  | kept => exact nomatch h
  | removed =>
      obtain rfl := Option.some.inj h
      exact ⟨rfl, nofun⟩
  | computed expression =>
      obtain rfl := Option.some.inj h
      exact ⟨rfl, nofun⟩

theorem removed_mem_changes (h : (path, ProjectedField.removed) ∈ fields) :
    (path.segments, none) ∈ changes document fields :=
  List.mem_filterMap.mpr ⟨_, h, rfl⟩

/-- A computed field is a change to what its expression comes to. -/
theorem computed_mem_changes (h : (path, ProjectedField.computed expression) ∈ fields) :
    (path.segments, expression.eval document) ∈ changes document fields :=
  List.mem_filterMap.mpr ⟨_, h, rfl⟩

/-- One listed field overrides its path, unless it is kept. -/
theorem override_eq (document out : Fields) (listed : FieldPath × ProjectedField) :
    override document out listed.1 listed.2 =
      match change? document listed with
      | some entry => overrideSegments entry.2 entry.1 out
      | none => out := by
  obtain ⟨path, field⟩ := listed
  cases field with
  | kept => rfl
  | removed => rfl
  | computed expression =>
      show override document out path (.computed expression) =
        overrideSegments (expression.eval document) path.segments out
      cases hvalue : expression.eval document with
      | none => simp only [override, hvalue]; rfl
      | some value => simp only [override, hvalue]; rfl

/-- **A projection that keeps the document overrides the paths that it changes.** -/
theorem apply_eq_overrideAll (hmode : projection.keepsOthers = true) (document : Fields) :
    projection.apply document = overrideAll (changes document projection.fields) document := by
  have hrun : ∀ (fields : List (FieldPath × ProjectedField)) (out : Fields),
      fields.foldl (fun out entry => override document out entry.1 entry.2) out =
        overrideAll (changes document fields) out := by
    intro fields
    induction fields with
    | nil => exact fun out => rfl
    | cons listed rest ih =>
        intro out
        have hstep := override_eq document out listed
        rw [List.foldl_cons, ih]
        unfold changes
        -- a kept field changes nothing, any other is one override
        cases hchange : change? document listed with
        | none =>
            rw [hchange] at hstep
            rw [List.filterMap_cons_none hchange]
            exact congrArg _ hstep
        | some entry =>
            rw [hchange] at hstep
            rw [List.filterMap_cons_some hchange]
            exact congrArg (overrideAll _) hstep
  unfold apply
  rw [if_pos hmode]
  exact hrun projection.fields document

/-! ## Accepted projections -/

/-- The changes of an accepted projection do not get in each other's way. -/
theorem independent_changes (h : projection.fault? = none)
    (hnames : (Value.document document).namesOnce = true) :
    Independent (changes document projection.fields) document where
  apart := by
    refine (pairwise_apart h).filterMap (change? document) ?_
    intro a b hapart entry hentry later hlater
    rw [(segments_of_change? hentry).1, (segments_of_change? hlater).1]
    exact hapart
  unique entry _ := uniqueAlong_of_namesOnce hnames entry.1

/-- A kept path is apart from all that are changed. -/
theorem apart_of_kept (h : projection.fault? = none) (hkept : (path, ProjectedField.kept) ∈ projection.fields) :
    ∀ entry ∈ changes document projection.fields, Apart path.segments entry.1 := by
  intro entry hm
  obtain ⟨listed, hlisted, hchange⟩ := List.mem_filterMap.mp hm
  obtain ⟨hsegments, hfield⟩ := segments_of_change? hchange
  have hne : (path, ProjectedField.kept) ≠ listed := fun heq => hfield (heq ▸ rfl)
  have hsymm : Std.Symm fun a b : FieldPath × ProjectedField => Apart a.1.segments b.1.segments :=
    ⟨fun _ _ => Apart.symm⟩
  rw [hsegments]
  exact (pairwise_apart h).forall hkept hlisted hne

/-- **What a projection that keeps the document changes in it.** Let a projection of an accepted list of
stages keep what is not listed, and a document name nothing twice. Then a computed field reads as its
expression on the document that came in, missing if that is missing; a removed field is missing; a kept field,
and every path that is neither the beginning nor a continuation of a listed one, reads as before; and the same
fields in another order give the same document up to the order of its fields. -/
theorem overrides_exactly {stages : List Stage} {pipeline : Pipeline}
    (h : Pipeline.ofStages stages = .ok pipeline) (hm : .project projection ∈ stages)
    (hmode : projection.keepsOthers = true) (hnames : (Value.document document).namesOnce = true) :
    (∀ path expression, (path, .computed expression) ∈ projection.fields →
      resolveStrict (projection.apply document) path = expression.eval document) ∧
    (∀ path, (path, .removed) ∈ projection.fields →
      resolveStrict (projection.apply document) path = none) ∧
    (∀ path, (path, .kept) ∈ projection.fields →
      resolveStrict (projection.apply document) path = resolveStrict document path) ∧
    (∀ path : FieldPath, (∀ listed ∈ projection.fields, Apart path.segments listed.1.segments) →
      resolveStrict (projection.apply document) path = resolveStrict document path) ∧
    (∀ fields', projection.fields.Perm fields' →
      Reordered (projection.apply document) ({ projection with fields := fields' }.apply document)) := by
  have hfault : projection.fault? = none := Pipeline.fault?_of_accepted h hm
  have hindependent := independent_changes hfault hnames
  -- every listed field that is not kept is an override, and overrides at paths apart do not disturb each other
  rw [apply_eq_overrideAll hmode]
  refine ⟨?_, ?_, ?_, ?_, ?_⟩
  · intro path expression hcomputed
    exact resolveStrict_overrideAll_of_mem hindependent (computed_mem_changes hcomputed) path.nonempty
  · intro path hremoved
    exact resolveStrict_overrideAll_of_mem hindependent (removed_mem_changes hremoved) path.nonempty
  · intro path hkept
    exact resolveStrict_overrideAll_of_apart (apart_of_kept hfault hkept) document
  · intro path hapart
    refine resolveStrict_overrideAll_of_apart ?_ document
    intro entry hentry
    obtain ⟨listed, hlisted, hchange⟩ := List.mem_filterMap.mp hentry
    rw [(segments_of_change? hchange).1]
    exact hapart listed hlisted
  · intro fields' hperm
    have hmode' : ({ projection with fields := fields' } : Projection).keepsOthers = true := hmode
    rw [apply_eq_overrideAll hmode']
    exact reordered_overrideAll (hperm.filterMap _) hindependent

/-- Two fields are computed inside what was a number, one field inside a document is removed; listed the other
way round, the computed fields change places. -/
theorem overrides_exactly_total :
    let sum : FieldPath := ⟨["total", "sum"], by simp⟩
    let city : FieldPath := ⟨["address", "city"], by simp⟩
    let n : FieldPath := ⟨["n"], by simp⟩
    let projection : Projection := ⟨true, [(sum, .computed (.field n)), (city, .removed), (n, .kept),
      (⟨["total", "count"], by simp⟩, .computed (.literal (.int32 1)))]⟩
    let document : Fields := [("total", .int32 5), ("n", .int32 2),
      ("address", .document [("city", .string "x"), ("zip", .int32 1)])]
    let reversed := Projection.apply ⟨true, projection.fields.reverse⟩ document
    projection.apply document = [("total", .document [("sum", .int32 2), ("count", .int32 1)]),
      ("n", .int32 2), ("address", .document [("zip", .int32 1)])] ∧
    reversed = [("total", .document [("count", .int32 1), ("sum", .int32 2)]),
      ("n", .int32 2), ("address", .document [("zip", .int32 1)])] ∧
    Reordered (projection.apply document) reversed ∧
    resolveStrict (projection.apply document) sum = some (.int32 2) ∧
    resolveStrict (projection.apply document) city = none ∧
    resolveStrict (projection.apply document) n = some (.int32 2) ∧
    resolveStrict (projection.apply document) ⟨["address", "zip"], by simp⟩ = some (.int32 1) := by
  intro sum city n projection document reversed
  have haccepted : Pipeline.ofStages [.project projection] = .ok ⟨[.project projection], _⟩ := rfl
  have hnames : (Value.document document).namesOnce = true := rfl
  obtain ⟨hcomputed, hremoved, hkept, hothers, horder⟩ :=
    overrides_exactly haccepted (List.mem_singleton.mpr rfl) rfl hnames
  have hzip : ∀ listed ∈ projection.fields, Apart ["address", "zip"] listed.1.segments := by
    simp [projection, sum, city, n, Apart]
  exact ⟨rfl, rfl, horder _ (List.reverse_perm projection.fields).symm,
    hcomputed sum (.field n) (by simp [projection]), hremoved city (by simp [projection]),
    hkept n (by simp [projection]), hothers ⟨["address", "zip"], by simp⟩ hzip⟩

end Docstore.Projection

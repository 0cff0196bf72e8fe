import Docstore.Pipeline.Reader
import Docstore.Proofs.Except
import Docstore.Proofs.Pipeline.Execution

/-!
# `Docstore.Proofs.Pipeline.Reader` — which stage an error names

A list of stage documents is read in two passes: first every document is read, then the stages are looked
through for faults. Each pass names the first document that it objects to (`FirstAt`), but the second one
starts only after the first one has gone through the whole list. So an error names a document that is
rejected on its own as well, and all documents before it can be read; yet one of them may be faulty, which
nobody has looked for by then.

## Contents
- **First objections.** `FirstAt` and how it moves along a list.
- **Two objections.** `Stage.unreadable?` and `Stage.faulty?`; `readAll_eq_error_iff` and
  `firstFault?_eq_some_iff` say that either pass names the first one.
- **Both passes.** `ofDocuments_eq_error_iff`, `accepts_iff`.
- **The exact condition.** `invalid_stage_names_first_iff`.
-/

namespace Docstore

/-! ## First objections -/

/-- The first item of a list that a test objects to stands at a place and has a cause. -/
def FirstAt {α ε : Type} (objection : α → Option ε) (items : List α) (place : Nat) (cause : ε) : Prop :=
  (∃ item, items[place]? = some item ∧ objection item = some cause) ∧
  ∀ earlier ∈ items.take place, objection earlier = none

namespace FirstAt

variable {α ε : Type} {objection : α → Option ε} {item : α} {rest : List α} {place : Nat} {cause : ε}

theorem not_nil : ¬FirstAt objection [] place cause := by
  rintro ⟨⟨item, hitem, -⟩, -⟩
  exact nomatch hitem

theorem cons_zero_iff : FirstAt objection (item :: rest) 0 cause ↔ objection item = some cause := by
  simp [FirstAt]

/-- A later item is the first to be objected to exactly if the first item passes and it is first among the
rest. -/
theorem cons_succ_iff : FirstAt objection (item :: rest) (place + 1) cause ↔
    objection item = none ∧ FirstAt objection rest place cause := by
  simp only [FirstAt, List.getElem?_cons_succ, List.take_succ_cons, List.forall_mem_cons]
  exact and_left_comm

/-- With places counted from `start`, the first objection is to the first item or follows it. -/
theorem exists_cons_iff {start index : Nat} :
    (∃ place, index = start + place ∧ FirstAt objection (item :: rest) place cause) ↔
      (index = start ∧ objection item = some cause) ∨
      (objection item = none ∧ ∃ place, index = start + 1 + place ∧ FirstAt objection rest place cause) := by
  constructor
  · rintro ⟨place, hindex, h⟩
    cases place with
    | zero => exact .inl ⟨hindex, cons_zero_iff.mp h⟩
    | succ place =>
        obtain ⟨hitem, h⟩ := cons_succ_iff.mp h
        exact .inr ⟨hitem, place, by omega, h⟩
  · rintro (⟨hindex, hitem⟩ | ⟨hitem, place, hindex, h⟩)
    · exact ⟨0, hindex, cons_zero_iff.mpr hitem⟩
    · exact ⟨place + 1, by omega, cons_succ_iff.mpr ⟨hitem, h⟩⟩

/-- Some item is objected to first, or none is objected to. -/
theorem exists_or_forall (objection : α → Option ε) (items : List α) :
    (∃ place cause, FirstAt objection items place cause) ∨ ∀ item ∈ items, objection item = none := by
  induction items with
  | nil => exact .inr nofun
  | cons item rest ih =>
      cases hitem : objection item with
      | some cause => exact .inl ⟨0, cause, cons_zero_iff.mpr hitem⟩
      | none =>
          rcases ih with ⟨place, cause, h⟩ | h
          · exact .inl ⟨place + 1, cause, cons_succ_iff.mpr ⟨hitem, h⟩⟩
          · exact .inr (List.forall_mem_cons.mpr ⟨hitem, h⟩)

theorem exists_mem {items : List α} (h : FirstAt objection items place cause) :
    ∃ item ∈ items, objection item = some cause := by
  obtain ⟨⟨item, hitem, hcause⟩, -⟩ := h
  exact ⟨item, List.mem_of_getElem? hitem, hcause⟩

end FirstAt

/-! ## Two objections -/

namespace Stage

/-- Why a stage document cannot be read. -/
def unreadable? (now : Option Instant) (fields : Fields) : Option StageError :=
  match ofFields now fields with
  | .error cause => some cause
  | .ok _ => none

/-- Why a stage document that can be read does not run. -/
def faulty? (now : Option Instant) (fields : Fields) : Option StageError :=
  match ofFields now fields with
  | .error _ => none
  | .ok stage => stage.fault?.map (.faulty stage.kind)

variable {now : Option Instant} {fields : Fields} {rest documents : List Fields} {error : StageError}

theorem unreadable?_eq_some_iff : unreadable? now fields = some error ↔ ofFields now fields = .error error := by
  unfold unreadable?
  cases ofFields now fields <;> simp

theorem unreadable?_eq_none_iff :
    unreadable? now fields = none ↔ ∃ stage, ofFields now fields = .ok stage := by
  unfold unreadable?
  cases ofFields now fields <;> simp

/-- A stage that is read is faulty for its own fault. -/
theorem faulty?_of_ok {stage : Stage} (h : ofFields now fields = .ok stage) :
    faulty? now fields = stage.fault?.map (.faulty stage.kind) := by
  unfold faulty?
  rw [h]

theorem faulty?_eq_none_iff : faulty? now fields = none ↔
    ∀ stage, ofFields now fields = .ok stage → stage.fault? = none := by
  unfold faulty?
  cases ofFields now fields <;> simp

/-- A document is faulty only if it can be read. -/
theorem unreadable?_of_faulty? (h : faulty? now fields = some error) : unreadable? now fields = none := by
  cases hread : ofFields now fields with
  | ok stage => exact unreadable?_eq_none_iff.mpr ⟨stage, hread⟩
  | error cause =>
      unfold faulty? at h
      rw [hread] at h
      exact nomatch h

/-- The errors of the second pass say so. -/
theorem eq_faulty_of_faulty? (h : faulty? now fields = some error) :
    ∃ kind fault, error = .faulty kind fault := by
  unfold faulty? at h
  split at h
  · exact nomatch h
  · next stage hread =>
      obtain ⟨fault, -, rfl⟩ := Option.map_eq_some_iff.mp h
      exact ⟨stage.kind, fault, rfl⟩

/-- The errors of the first pass are none of the second. -/
theorem ne_faulty_of_unreadable? (h : unreadable? now fields = some error) (kind : StageKind)
    (fault : StageFault) : error ≠ .faulty kind fault := by
  rw [unreadable?_eq_some_iff] at h
  rintro rfl
  unfold ofFields at h
  split at h
  · split at h
    · obtain ⟨cause, -, hcause⟩ := mapError_eq_error_iff.mp h
      exact nomatch hcause
    · exact nomatch h
  · exact nomatch h

theorem readAll_cons_of_error {index : Nat} (h : ofFields now fields = .error error) :
    readAll now index (fields :: rest) = .error ⟨index, error⟩ := by
  unfold readAll
  rw [h]
  rfl

theorem readAll_cons_of_ok {index : Nat} {stage : Stage} (h : ofFields now fields = .ok stage) :
    readAll now index (fields :: rest) = (readAll now (index + 1) rest).map (stage :: ·) := by
  rw [readAll, h]
  cases readAll now (index + 1) rest <;> rfl

/-- **The first pass names the first document that cannot be read.** -/
theorem readAll_eq_error_iff {start : Nat} {invalid : InvalidStage} :
    readAll now start documents = .error invalid ↔
      ∃ place, invalid.index = start + place ∧
        FirstAt (unreadable? now) documents place invalid.error := by
  induction documents generalizing start with
  | nil => exact ⟨nofun, fun ⟨_, _, h⟩ => (FirstAt.not_nil h).elim⟩
  | cons fields rest ih =>
      rw [FirstAt.exists_cons_iff]
      cases hread : ofFields now fields with
      | error cause =>
          have hunreadable : unreadable? now fields = some cause := unreadable?_eq_some_iff.mpr hread
          rw [readAll_cons_of_error hread, hunreadable, Except.error.injEq, Option.some.injEq]
          constructor
          · rintro rfl
            exact .inl ⟨rfl, rfl⟩
          · rintro (⟨hindex, hcause⟩ | ⟨hnone, -⟩)
            · rw [← hindex, hcause]
            · exact nomatch hnone
      -- a stage that can be read moves the error of the rest on by one place
      | ok stage =>
          have hreadable : unreadable? now fields = none := unreadable?_eq_none_iff.mpr ⟨stage, hread⟩
          rw [readAll_cons_of_ok hread, map_eq_error_iff, ih, hreadable]
          constructor
          · exact fun h => .inr ⟨rfl, h⟩
          · rintro (⟨-, hsome⟩ | ⟨-, h⟩)
            · exact nomatch hsome
            · exact h

/-- The first pass goes through exactly if every document can be read. -/
theorem exists_readAll_iff {start : Nat} :
    (∃ stages, readAll now start documents = .ok stages) ↔
      ∀ fields ∈ documents, unreadable? now fields = none := by
  induction documents generalizing start with
  | nil => exact ⟨fun _ => nofun, fun _ => ⟨[], rfl⟩⟩
  | cons fields rest ih =>
      rw [List.forall_mem_cons, ← @ih (start + 1), unreadable?_eq_none_iff]
      constructor
      · rintro ⟨stages, h⟩
        cases hfields : ofFields now fields with
        | error cause =>
            rw [readAll_cons_of_error hfields] at h
            exact nomatch h
        | ok stage =>
            rw [readAll_cons_of_ok hfields] at h
            obtain ⟨others, hothers, -⟩ := map_eq_ok_iff.mp h
            exact ⟨⟨stage, rfl⟩, others, hothers⟩
      · rintro ⟨⟨stage, hfields⟩, others, hothers⟩
        rw [readAll_cons_of_ok hfields, hothers]
        exact ⟨stage :: others, rfl⟩

theorem firstFault?_cons (index : Nat) (stage : Stage) (stages : List Stage) :
    firstFault? index (stage :: stages) =
      (stage.fault?.map (FaultyStage.mk index stage.kind)).or (firstFault? (index + 1) stages) := by
  rw [firstFault?]
  cases stage.fault? <;> rfl

/-- **The second pass names the first document that is faulty.** -/
theorem firstFault?_eq_some_iff {start index : Nat} {stages : List Stage} {faulty : FaultyStage}
    (hread : readAll now start documents = .ok stages) :
    firstFault? index stages = some faulty ↔
      ∃ place, faulty.index = index + place ∧
        FirstAt (faulty? now) documents place (.faulty faulty.kind faulty.fault) := by
  induction documents generalizing start index stages with
  | nil =>
      obtain rfl : [] = stages := Except.ok.inj hread
      exact ⟨nofun, fun ⟨_, _, h⟩ => (FirstAt.not_nil h).elim⟩
  | cons fields rest ih =>
      cases hfields : ofFields now fields with
      | error cause =>
          rw [readAll_cons_of_error hfields] at hread
          exact nomatch hread
      | ok stage =>
          rw [readAll_cons_of_ok hfields] at hread
          obtain ⟨others, hothers, rfl⟩ := map_eq_ok_iff.mp hread
          rw [FirstAt.exists_cons_iff, faulty?_of_ok hfields, ← ih hothers, firstFault?_cons]
          cases stage.fault? with
          | none => simp
          | some fault =>
              obtain ⟨place, kind, cause⟩ := faulty
              simp [eq_comm]

end Stage

/-! ## Both passes -/

namespace Pipeline

variable {now : Option Instant} {documents : List Fields} {index : Nat} {error : StageError}

/-- Stages make no pipeline exactly if one of them has a fault; the error names the first. -/
theorem ofStages_eq_error_iff {stages : List Stage} {faulty : FaultyStage} :
    ofStages stages = .error faulty ↔ firstFault? 0 stages = some faulty := by
  unfold ofStages
  split
  · next found hfound =>
      rw [hfound, Except.error.injEq, Option.some.injEq]
  · next hnone =>
      constructor
      · exact nofun
      · intro hsome
        rw [hnone] at hsome
        exact nomatch hsome

/-- A list with a stage that cannot be read is refused for the first such stage. -/
theorem ofDocuments_of_unreadable {invalid : InvalidStage}
    (h : Stage.readAll now 0 documents = .error invalid) :
    ofDocuments now documents = .error invalid := by
  unfold ofDocuments
  rw [h]
  rfl

/-- A list whose stages can all be read is refused for the first fault among them, if there is one. -/
theorem ofDocuments_of_readable {stages : List Stage} (h : Stage.readAll now 0 documents = .ok stages) :
    ofDocuments now documents = (ofStages stages).mapError FaultyStage.toInvalid := by
  unfold ofDocuments
  rw [h]
  rfl

/-- **An error names the first document that cannot be read, or, if all can, the first faulty one.** -/
theorem ofDocuments_eq_error_iff : ofDocuments now documents = .error ⟨index, error⟩ ↔
    FirstAt (Stage.unreadable? now) documents index error ∨
    ((∀ fields ∈ documents, Stage.unreadable? now fields = none) ∧
      FirstAt (Stage.faulty? now) documents index error) := by
  cases hread : Stage.readAll now 0 documents with
  | error invalid =>
      -- the first pass fails, and its error is the one that is returned
      have hpass : Stage.readAll now 0 documents = .error ⟨index, error⟩ ↔
          FirstAt (Stage.unreadable? now) documents index error := by
        rw [Stage.readAll_eq_error_iff]
        simp only [Nat.zero_add, exists_eq_left']
      have hunread : ¬∀ fields ∈ documents, Stage.unreadable? now fields = none := by
        rw [← Stage.exists_readAll_iff, hread]
        exact nofun
      rw [ofDocuments_of_unreadable hread, ← hpass, hread, Except.error.injEq, Except.error.injEq]
      exact (or_iff_left fun h => hunread h.1).symm
  | ok stages =>
      -- the first pass goes through, so only the second one can object
      have hreadable := Stage.exists_readAll_iff.mp ⟨stages, hread⟩
      rw [ofDocuments_of_readable hread, mapError_eq_error_iff]
      simp only [ofStages_eq_error_iff, Stage.firstFault?_eq_some_iff hread, Nat.zero_add]
      constructor
      · rintro ⟨faulty, ⟨place, hplace, hfirst⟩, htoInvalid⟩
        obtain ⟨rfl, rfl⟩ := InvalidStage.mk.inj htoInvalid
        exact .inr ⟨hreadable, hplace ▸ hfirst⟩
      · rintro (hfirst | ⟨-, hfirst⟩)
        · obtain ⟨unread, hmem, hunread⟩ := hfirst.exists_mem
          rw [hreadable unread hmem] at hunread
          exact nomatch hunread
        · obtain ⟨fields, -, hfaulty⟩ := hfirst.exists_mem
          obtain ⟨kind, fault, rfl⟩ := Stage.eq_faulty_of_faulty? hfaulty
          exact ⟨⟨index, kind, fault⟩, ⟨index, rfl, hfirst⟩, rfl⟩

/-- Some pipeline is read from a list of stage documents. -/
def Accepts (now : Option Instant) (documents : List Fields) : Prop :=
  ∃ pipeline, ofDocuments now documents = .ok pipeline

/-- A list is accepted exactly if no document of it is objected to, in either pass. -/
theorem accepts_iff : Accepts now documents ↔
    ∀ fields ∈ documents, Stage.unreadable? now fields = none ∧ Stage.faulty? now fields = none := by
  constructor
  · rintro ⟨pipeline, hok⟩
    have hnever : ∀ place cause, ofDocuments now documents ≠ .error ⟨place, cause⟩ := by
      intro place cause herror
      rw [hok] at herror
      exact nomatch herror
    rcases FirstAt.exists_or_forall (Stage.unreadable? now) documents with ⟨place, cause, h⟩ | hread
    · exact absurd (ofDocuments_eq_error_iff.mpr (.inl h)) (hnever place cause)
    · rcases FirstAt.exists_or_forall (Stage.faulty? now) documents with ⟨place, cause, h⟩ | hsound
      · exact absurd (ofDocuments_eq_error_iff.mpr (.inr ⟨hread, h⟩)) (hnever place cause)
      · exact fun fields hm => ⟨hread fields hm, hsound fields hm⟩
  · intro hall
    cases hresult : ofDocuments now documents with
    | ok pipeline => exact ⟨pipeline, hresult⟩
    | error invalid =>
        -- the error would name a document that is objected to
        rcases ofDocuments_eq_error_iff.mp hresult with hfirst | ⟨-, hfirst⟩
        · obtain ⟨fields, hm, hunread⟩ := hfirst.exists_mem
          rw [(hall fields hm).1] at hunread
          exact nomatch hunread
        · obtain ⟨fields, hm, hfaulty⟩ := hfirst.exists_mem
          rw [(hall fields hm).2] at hfaulty
          exact nomatch hfaulty

/-! ## The exact condition -/

/-- A document that either pass objects to is rejected for the same reason when it stands alone. -/
theorem ofDocuments_alone {fields : Fields}
    (h : Stage.unreadable? now fields = some error ∨ Stage.faulty? now fields = some error) :
    ofDocuments now [fields] = .error ⟨0, error⟩ := by
  rw [ofDocuments_eq_error_iff, FirstAt.cons_zero_iff, FirstAt.cons_zero_iff]
  rcases h with hunread | hfaulty
  · exact .inl hunread
  · refine .inr ⟨?_, hfaulty⟩
    intro other hm
    obtain rfl := List.mem_singleton.mp hm
    exact Stage.unreadable?_of_faulty? hfaulty

/-- **When an error names the first stage that is wrong.** The document that an error names is in the list
and is rejected with the same error when it stands alone, and every document before it can be read. The
documents before it are accepted exactly if none of them is faulty; so they are if the error is itself
about a fault. -/
theorem invalid_stage_names_first_iff (h : ofDocuments now documents = .error ⟨index, error⟩) :
    (∃ fields, documents[index]? = some fields ∧ ofDocuments now [fields] = .error ⟨0, error⟩) ∧
    (∀ earlier ∈ documents.take index, ∃ stage, Stage.ofFields now earlier = .ok stage) ∧
    (Accepts now (documents.take index) ↔
      ∀ earlier ∈ documents.take index, ∀ stage, Stage.ofFields now earlier = .ok stage →
        stage.fault? = none) ∧
    (∀ kind fault, error = .faulty kind fault → Accepts now (documents.take index)) := by
  have hobjection := ofDocuments_eq_error_iff.mp h
  have hreadable : ∀ earlier ∈ documents.take index, Stage.unreadable? now earlier = none := by
    intro earlier hm
    rcases hobjection with ⟨-, hbefore⟩ | ⟨hall, -⟩
    · exact hbefore earlier hm
    · exact hall earlier (List.mem_of_mem_take hm)
  -- since all documents before the error can be read, only faults can stand in the way
  have haccepts : Accepts now (documents.take index) ↔
      ∀ earlier ∈ documents.take index, Stage.faulty? now earlier = none := by
    rw [accepts_iff]
    exact forall₂_congr fun earlier hm => and_iff_right (hreadable earlier hm)
  refine ⟨?_, fun earlier hm => Stage.unreadable?_eq_none_iff.mp (hreadable earlier hm), ?_, ?_⟩
  · rcases hobjection with ⟨⟨fields, hfields, hunread⟩, -⟩ | ⟨-, ⟨fields, hfields, hfaulty⟩, -⟩
    · exact ⟨fields, hfields, ofDocuments_alone (.inl hunread)⟩
    · exact ⟨fields, hfields, ofDocuments_alone (.inr hfaulty)⟩
  · rw [haccepts]
    exact forall₂_congr fun earlier _ => Stage.faulty?_eq_none_iff
  · rintro kind fault rfl
    rcases hobjection with ⟨⟨fields, -, hunread⟩, -⟩ | ⟨-, -, hbefore⟩
    · exact absurd rfl (Stage.ne_faulty_of_unreadable? hunread kind fault)
    · exact haccepts.mpr hbefore

/-- An error about the third of three documents, of which the first two are accepted. -/
theorem invalid_stage_names_first_iff_group :
    let documents : List Fields := [[("$limit", .int32 2)], [("$skip", .int32 1)],
      [("$group", .document [("_id", .null), ("a.b", .document [("$count", .document [])])])]]
    ofDocuments none documents = .error ⟨2, .faulty .group (.outputName "a.b")⟩ ∧
      Accepts none (documents.take 2) := by
  intro documents
  have herror : ofDocuments none documents = .error ⟨2, .faulty .group (.outputName "a.b")⟩ := rfl
  obtain ⟨-, -, -, hfault⟩ := invalid_stage_names_first_iff herror
  exact ⟨herror, hfault .group (.outputName "a.b") rfl⟩

/-- A sort without keys is the first stage that is wrong, but the error names the stage after it, whose
kind is not known. -/
theorem invalid_stage_passes_over_fault :
    let documents : List Fields := [[("$sort", .document [])], [("$bucket", .document [])]]
    ofDocuments none documents = .error ⟨1, .unknownKind "$bucket"⟩ ∧
      ofDocuments none (documents.take 1) = .error ⟨0, .faulty .sort .noSortKeys⟩ ∧
      ¬Accepts none (documents.take 1) := by
  intro documents
  have hbefore : ofDocuments none (documents.take 1) = .error ⟨0, .faulty .sort .noSortKeys⟩ := rfl
  refine ⟨rfl, hbefore, ?_⟩
  rintro ⟨pipeline, hok⟩
  rw [hbefore] at hok
  exact nomatch hok

end Pipeline
end Docstore

import Docstore.Pipeline.Stage

/-!
# `Docstore.Pipeline.Basic` — pipelines

A `Pipeline` is a list of stages that all run. `Pipeline.ofStages` refuses a list with a faulty stage
and names the first one.
-/

namespace Docstore

/-- Stages that run one after another. -/
structure Pipeline where
  stages : List Stage
  runnable : ∀ stage ∈ stages, stage.fault? = none

/-- The first stage that does not run: its place in a list, its kind and its fault. -/
structure FaultyStage where
  index : Nat
  kind : StageKind
  fault : StageFault
deriving DecidableEq, Repr

/-- The first faulty stage, counting from `index`. -/
def firstFault? (index : Nat) : List Stage → Option FaultyStage
  | [] => none
  | stage :: rest =>
    match stage.fault? with
    | some fault => some ⟨index, stage.kind, fault⟩
    | none => firstFault? (index + 1) rest

theorem firstFault?_eq_none {index : Nat} {stages : List Stage}
    (h : firstFault? index stages = none) : ∀ stage ∈ stages, stage.fault? = none := by
  induction stages generalizing index with
  | nil => simp
  | cons stage rest ih =>
    cases hs : stage.fault? with
    | some fault => simp [firstFault?, hs] at h
    | none =>
      simp only [firstFault?, hs] at h
      intro other hm
      rcases List.mem_cons.1 hm with rfl | hm
      · exact hs
      · exact ih h other hm

namespace Pipeline

/-- The pipeline of some stages. -/
def ofStages (stages : List Stage) : Except FaultyStage Pipeline :=
  match h : firstFault? 0 stages with
  | some faulty => .error faulty
  | none => .ok ⟨stages, firstFault?_eq_none h⟩

/-- The number of stages. -/
def length (pipeline : Pipeline) : Nat := pipeline.stages.length

/-- The collections that are joined, in the order of the stages. -/
def sources (pipeline : Pipeline) : List String := pipeline.stages.filterMap Stage.source?

end Pipeline
end Docstore

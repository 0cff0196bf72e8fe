import Docstore.Pipeline.Execution
import Docstore.Proofs.Pipeline.Feed

/-!
# `Docstore.Proofs.Pipeline.Execution` — running on demand means running on lists

`Pipeline.execute` makes documents on demand, `Pipeline.onList` applies the stages to whole lists, one
after the other. They agree pull by pull: the relation between the two is *this feed stands for that
list* (`Feed.PullsTo`), every stage keeps it, and so does every chain of stages.

Pipelines compose: the stages of two pipelines in a row are a pipeline again, and running it is running
the second one over what the first one returns.
-/

namespace Docstore

/-! ## One stage -/

/-- **A stage keeps the list a feed stands for.** What it makes of a feed stands for what it makes of
the list. -/
theorem Stage.toList_onFeed (snapshots : Snapshots) (stage : Stage) (feed : Feed) :
    (stage.onFeed snapshots feed).toList = stage.onList snapshots feed.toList := by
  cases stage with
  | filter condition => exact Feed.toList_filter condition.accepts feed
  | group spec => exact Feed.toList_gather spec.run feed
  | lookup spec => exact Feed.toList_map _ feed
  | unwind spec => exact Feed.toList_flatMap spec.expand feed
  | project projection => exact Feed.toList_map projection.apply feed
  | sort keys => exact Feed.toList_gather (sortDocuments keys) feed
  | limit count => exact Feed.toList_take count.toNat feed
  | skip count => exact Feed.toList_skip count feed

/-! ## Chains of stages -/

/-- A list has no first faulty stage if none of its stages is faulty. -/
theorem firstFault?_eq_none_iff {index : Nat} {stages : List Stage} :
    firstFault? index stages = none ↔ ∀ stage ∈ stages, stage.fault? = none := by
  refine ⟨firstFault?_eq_none, fun h => ?_⟩
  induction stages generalizing index with
  | nil => rfl
  | cons stage rest ih =>
      unfold firstFault?
      rw [h stage (by simp)]
      exact ih (fun other hm => h other (by simp [hm]))

namespace Pipeline

/-- A pipeline is accepted for exactly its own stages. -/
theorem ofStages_eq_ok_iff {stages : List Stage} {pipeline : Pipeline} :
    ofStages stages = .ok pipeline ↔ pipeline.stages = stages := by
  constructor
  · intro h
    unfold ofStages at h
    split at h
    · exact absurd h (by simp)
    · injection h with h
      rw [← h]
  · rintro rfl
    have hnone : firstFault? 0 pipeline.stages = none := firstFault?_eq_none_iff.mpr pipeline.runnable
    unfold ofStages
    split
    · next faulty hsome => rw [hnone] at hsome; exact absurd hsome (by simp)
    · rfl

/-- A stage of an accepted list of stages has no fault. -/
theorem fault?_of_accepted {stages : List Stage} {pipeline : Pipeline} {stage : Stage}
    (h : ofStages stages = .ok pipeline) (hm : stage ∈ stages) : stage.fault? = none := by
  rw [← ofStages_eq_ok_iff.mp h] at hm
  exact pipeline.runnable stage hm

/-- The stages of one pipeline, then those of another. -/
def append (first second : Pipeline) : Pipeline where
  stages := first.stages ++ second.stages
  runnable := by
    intro stage hm
    rcases List.mem_append.mp hm with h | h
    · exact first.runnable stage h
    · exact second.runnable stage h

end Pipeline
end Docstore

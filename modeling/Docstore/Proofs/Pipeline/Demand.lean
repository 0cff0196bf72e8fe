import Docstore.Proofs.Pipeline.Execution

/-!
# `Docstore.Proofs.Pipeline.Demand` — no more requests than it takes

Filters, lookups, unwinds, projections, skips and limits pass documents on as they come. What they have
emitted within some requests to the source is what they make of the documents that the source has emitted
within as many (`Stage.within_onFeed`). So the request that brings a document is the first one after which
the whole pipeline, run on the list of the source documents so far, has that many results.

A limit ends the stream after its last document, so that nothing is asked for on its behalf from then on;
no stage asks for more than there is (`Stage.requests_onFeed_le`), which bounds a whole pipeline by the
pulls of its limit.

## Contents
- **Emitted within some requests.** `Feed.within` and what each combinator makes of it.
- **Pulls.** `lt_length_within_iff`: the next pull returns within some requests.
- **Stages on demand.** `Stage.OnDemand`, `Stage.within_onFeed`, `Stage.onFeed_ask`.
- **Limits.** `requests_take`, `Stage.requests_onFeed_le`.
- **Pipelines.** `Pipeline.requests_are_least`.
-/

namespace Docstore

/-! ## Emitted within some requests -/

namespace Feed

/-- The documents that a feed emits before it makes more than some requests. -/
def within : Nat → Feed → List Fields
  | _, stop => []
  | count, emit document rest => document :: within count (rest ())
  | 0, ask _ => []
  | count + 1, ask rest => within count (rest ())

/-- A source emits one document for each request. -/
theorem within_ofList (count : Nat) (documents : List Fields) :
    (ofList documents).within count = documents.take count := by
  induction documents generalizing count with
  | nil => cases count <;> rfl
  | cons document rest ih => cases count <;> simp [ofList, within, ih]

/-- Documents that are emitted take no requests. -/
theorem within_emitAll (count : Nat) (documents : List Fields) (rest : Unit → Feed) :
    (emitAll documents rest).within count = documents ++ (rest ()).within count := by
  induction documents with
  | nil => rfl
  | cons document others ih => simp [emitAll, within, ih]

theorem within_map (f : Fields → Fields) (count : Nat) (feed : Feed) :
    (feed.map f).within count = (feed.within count).map f := by
  induction feed generalizing count with
  | stop => simp [map, within]
  | emit document rest ih => simp [map, within, ih]
  | ask rest ih => cases count <;> simp [map, within, ih]

theorem within_filter (test : Fields → Bool) (count : Nat) (feed : Feed) :
    (feed.filter test).within count = (feed.within count).filter test := by
  induction feed generalizing count with
  | stop => simp [filter, within]
  | emit document rest ih =>
      simp only [filter, within]
      by_cases h : test document = true
      · rw [if_pos h, List.filter_cons_of_pos h, within, ih]
      · rw [if_neg h, List.filter_cons_of_neg h, ih]
  | ask rest ih => cases count <;> simp [filter, within, ih]

/-- Within some requests, a flat map emits all that it makes of the documents it gets within them. -/
theorem within_flatMap (f : Fields → List Fields) (count : Nat) (feed : Feed) :
    (feed.flatMap f).within count = (feed.within count).flatMap f := by
  induction feed generalizing count with
  | stop => simp [flatMap, within]
  | emit document rest ih => simp [flatMap, within, within_emitAll, ih]
  | ask rest ih => cases count <;> simp [flatMap, within, ih]

theorem within_take (most : Nat) (count : Nat) (feed : Feed) :
    (feed.take most).within count = (feed.within count).take most := by
  induction feed generalizing count most with
  | stop => cases most <;> simp [take, within]
  | emit document rest ih => cases most <;> simp [take, within, ih]
  | ask rest ih => cases most <;> cases count <;> simp [take, within, ih]

theorem within_skip (least : Nat) (count : Nat) (feed : Feed) :
    (feed.skip least).within count = (feed.within count).drop least := by
  induction feed generalizing count least with
  | stop => cases least <;> simp [skip, within]
  | emit document rest ih => cases least <;> simp [skip, within, ih]
  | ask rest ih => cases least <;> cases count <;> simp [skip, within, ih]

/-! ## Pulls -/

/-- The first document comes within the requests that it takes, and the others after them. -/
theorem within_of_next_some {feed rest : Feed} {document : Fields}
    (h : feed.next.2 = some (document, rest)) (count : Nat) :
    feed.within count =
      if feed.next.1 ≤ count then document :: rest.within (count - feed.next.1) else [] := by
  induction feed generalizing count with
  | stop => exact nomatch h
  | emit first others _ =>
      obtain ⟨rfl, rfl⟩ : first = document ∧ others () = rest := by
        simpa [next, nextFrom] using h
      rfl
  | ask others ih =>
      rw [next_ask] at h ⊢
      cases count with
      | zero => rw [within, if_neg (Nat.not_succ_le_zero _)]
      | succ count => rw [within, ih () h]; simp only [Nat.add_le_add_iff_right, Nat.add_sub_add_right]

/-- **Pulls within some requests.** If the pull after some others returns a document, all of them take no
more than some requests exactly if that many requests bring more documents than those others. -/
theorem lt_length_within_iff {feed rest : Feed} {document : Fields} {pulled : Nat}
    (h : (feed.after pulled).next.2 = some (document, rest)) (count : Nat) :
    pulled < (feed.within count).length ↔ feed.firstRequests (pulled + 1) ≤ count := by
  induction pulled generalizing feed count with
  | zero =>
      -- the first pull returns a document, within its own requests
      have hnext : feed.next.2 = some (document, rest) := h
      rw [within_of_next_some hnext, firstRequests_of_next_some hnext]
      rw [firstRequests, Nat.add_zero]
      split
      next hle => simp [hle]
      next hlt => simp [hlt]
  | succ pulled ih =>
      cases hnext : feed.next.2 with
      | none =>
          -- after an end no pull returns anything
          rw [after_of_next_none hnext] at h
          cases h
      | some found =>
          obtain ⟨first, others⟩ := found
          rw [after_of_next_some hnext] at h
          rw [within_of_next_some hnext, firstRequests_of_next_some hnext]
          split
          next hle =>
            rw [List.length_cons, Nat.add_lt_add_iff_right, ih h]
            omega
          next hlt =>
            simp only [List.length_nil]
            omega

/-! ## Limits -/

/-- **A limit asks no more once it is satisfied.** To its end it takes the requests of its pulls. -/
theorem requests_take (most : Nat) (feed : Feed) : (feed.take most).requests = feed.firstRequests most := by
  induction feed generalizing most with
  | stop => cases most <;> rfl
  | emit document rest ih =>
      cases most with
      | zero => rfl
      | succ most =>
          have hpull : (emit document rest).next.2 = some (document, rest ()) := rfl
          have hnone : (emit document rest).next.1 = 0 := rfl
          rw [take, requests, ih, firstRequests_of_next_some hpull, hnone, Nat.zero_add]
  | ask rest ih =>
      cases most with
      | zero => rfl
      | succ most =>
          rw [take, requests, ih, firstRequests, firstRequests, next_ask]
          cases (rest ()).next.2 with
          | none => rfl
          | some found => simp only [Nat.add_right_comm]

theorem requests_emitAll (documents : List Fields) (rest : Unit → Feed) :
    (emitAll documents rest).requests = (rest ()).requests := by
  induction documents with
  | nil => rfl
  | cons document others ih => rw [emitAll, requests, ih]

theorem requests_map (f : Fields → Fields) (feed : Feed) : (feed.map f).requests = feed.requests := by
  induction feed with
  | stop => rfl
  | emit document rest ih => rw [map, requests, requests, ih]
  | ask rest ih => rw [map, requests, requests, ih]

theorem requests_filter (test : Fields → Bool) (feed : Feed) :
    (feed.filter test).requests = feed.requests := by
  induction feed with
  | stop => rfl
  | emit document rest ih =>
      rw [filter]
      split
      · rw [requests, requests, ih]
      · rw [requests, ih]
  | ask rest ih => rw [filter, requests, requests, ih]

/-- A flat map asks for nothing more and nothing less than its source. -/
theorem requests_flatMap (f : Fields → List Fields) (feed : Feed) :
    (feed.flatMap f).requests = feed.requests := by
  induction feed with
  | stop => rfl
  | emit document rest ih => rw [flatMap, requests_emitAll, requests, ih]
  | ask rest ih => rw [flatMap, requests, requests, ih]

theorem requests_skip (least : Nat) (feed : Feed) : (feed.skip least).requests = feed.requests := by
  induction feed generalizing least with
  | stop => cases least <;> rfl
  | emit document rest ih => cases least <;> simp [skip, requests, ih]
  | ask rest ih => cases least <;> simp [skip, requests, ih]

theorem requests_gatherFrom (f : List Fields → List Fields) (taken : List Fields) (feed : Feed) :
    (gatherFrom f taken feed).requests = feed.requests := by
  induction feed generalizing taken with
  | stop => rw [gatherFrom, requests_emitAll]
  | emit document rest ih => rw [gatherFrom, requests, ih]
  | ask rest ih => rw [gatherFrom, requests, requests, ih]

theorem requests_take_le (most : Nat) (feed : Feed) : (feed.take most).requests ≤ feed.requests := by
  induction feed generalizing most with
  | stop => cases most <;> exact Nat.le_refl 0
  | emit document rest ih =>
      cases most with
      | zero => exact Nat.zero_le _
      | succ most => exact ih () most
  | ask rest ih =>
      cases most with
      | zero => exact Nat.zero_le _
      | succ most => exact Nat.succ_le_succ (ih () (most + 1))

end Feed

/-! ## Stages on demand -/

namespace Stage

/-- A stage that passes documents on as they come: it neither groups nor sorts. -/
def OnDemand : Stage → Prop
  | group _ | sort _ => False
  | _ => True

instance : DecidablePred OnDemand := fun stage => by
  cases stage <;> unfold OnDemand <;> infer_instance

variable {snapshots : Snapshots} {stage : Stage}

/-- **A stage on demand is not ahead of its source.** What it emits within some requests is what it makes
of the documents emitted to it within as many. -/
theorem within_onFeed (h : stage.OnDemand) (count : Nat) (feed : Feed) :
    (stage.onFeed snapshots feed).within count = stage.onList snapshots (feed.within count) := by
  cases stage with
  | filter condition => exact Feed.within_filter condition.accepts count feed
  | group spec => exact h.elim
  | lookup spec => exact Feed.within_map _ count feed
  | unwind spec => exact Feed.within_flatMap spec.expand count feed
  | project projection => exact Feed.within_map projection.apply count feed
  | sort keys => exact h.elim
  | limit most => exact Feed.within_take most.toNat count feed
  | skip least => exact Feed.within_skip least count feed

/-- A stage that passes documents on makes nothing of nothing. -/
theorem onFeed_stop (h : stage.OnDemand) : stage.onFeed snapshots .stop = .stop := by
  cases stage with
  | group spec | sort keys => exact h.elim
  | limit most =>
      show Feed.take most.toNat .stop = .stop
      cases most.toNat <;> rfl
  | skip least => cases least <;> rfl
  | _ => rfl

/-- Over a source that is about to be asked a stage is at its end, or about to ask: it uses no answer
before it asks for it. -/
theorem onFeed_ask (snapshots : Snapshots) (stage : Stage) (rest : Unit → Feed) :
    stage.onFeed snapshots (.ask rest) = .stop ∨
      stage.onFeed snapshots (.ask rest) = .ask fun _ => stage.onFeed snapshots (rest ()) := by
  cases stage with
  | limit most =>
      show Feed.take most.toNat (.ask rest) = .stop ∨
        Feed.take most.toNat (.ask rest) = .ask fun _ => Feed.take most.toNat (rest ())
      cases most.toNat with
      | zero => exact .inl rfl
      | succ most => exact .inr rfl
  | skip least => cases least <;> exact .inr rfl
  | _ => exact .inr rfl

/-- No stage asks for more than there is. -/
theorem requests_onFeed_le (snapshots : Snapshots) (stage : Stage) (feed : Feed) :
    (stage.onFeed snapshots feed).requests ≤ feed.requests := by
  cases stage with
  | filter condition => exact Nat.le_of_eq (Feed.requests_filter condition.accepts feed)
  | group spec => exact Nat.le_of_eq (Feed.requests_gatherFrom spec.run [] feed)
  | lookup spec => exact Nat.le_of_eq (Feed.requests_map _ feed)
  | unwind spec => exact Nat.le_of_eq (Feed.requests_flatMap spec.expand feed)
  | project projection => exact Nat.le_of_eq (Feed.requests_map projection.apply feed)
  | sort keys => exact Nat.le_of_eq (Feed.requests_gatherFrom (sortDocuments keys) [] feed)
  | limit most => exact Feed.requests_take_le most.toNat feed
  | skip least => exact Nat.le_of_eq (Feed.requests_skip least feed)

end Stage

/-! ## Pipelines -/

/-- What a chain of stages makes of a feed. -/
def chain (snapshots : Snapshots) (stages : List Stage) (source : Feed) : Feed :=
  stages.foldl (fun feed stage => stage.onFeed snapshots feed) source

variable {snapshots : Snapshots} {stages : List Stage}

theorem chain_stop (h : ∀ stage ∈ stages, stage.OnDemand) : chain snapshots stages .stop = .stop := by
  induction stages with
  | nil => rfl
  | cons stage rest ih =>
      obtain ⟨hstage, hrest⟩ := List.forall_mem_cons.mp h
      rw [chain, List.foldl_cons, Stage.onFeed_stop hstage]
      exact ih hrest

/-- **Nothing runs until it is asked for.** -/
theorem chain_ask (h : ∀ stage ∈ stages, stage.OnDemand) (rest : Unit → Feed) :
    chain snapshots stages (.ask rest) = .stop ∨
      chain snapshots stages (.ask rest) = .ask fun _ => chain snapshots stages (rest ()) := by
  induction stages generalizing rest with
  | nil => exact .inr rfl
  | cons stage others ih =>
      obtain ⟨-, hothers⟩ := List.forall_mem_cons.mp h
      rw [chain, List.foldl_cons]
      rcases Stage.onFeed_ask snapshots stage rest with hstop | hask
      · rw [hstop]
        exact .inl (chain_stop hothers)
      · rw [hask]
        exact ih hothers fun _ => stage.onFeed snapshots (rest ())

/-- Within some requests, a chain emits what its stages make of the documents that the source emits within
them. -/
theorem within_chain (h : ∀ stage ∈ stages, stage.OnDemand) (count : Nat) (source : Feed) :
    (chain snapshots stages source).within count =
      stages.foldl (fun documents stage => stage.onList snapshots documents) (source.within count) := by
  induction stages generalizing source with
  | nil => rfl
  | cons stage rest ih =>
      obtain ⟨hstage, hrest⟩ := List.forall_mem_cons.mp h
      rw [List.foldl_cons, ← Stage.within_onFeed hstage]
      exact ih hrest (stage.onFeed snapshots source)

/-- A chain of any stages asks for no more than its source has. -/
theorem requests_chain_le (snapshots : Snapshots) (stages : List Stage) (source : Feed) :
    (chain snapshots stages source).requests ≤ source.requests := by
  induction stages generalizing source with
  | nil => exact Nat.le_refl _
  | cons stage rest ih =>
      exact Nat.le_trans (ih (stage.onFeed snapshots source))
        (Stage.requests_onFeed_le snapshots stage source)

/-- A chain with a limit asks for no more than the limit takes of the stages before it. -/
theorem requests_chain_limit_le (snapshots : Snapshots) (before after : List Stage) (most : Int)
    (source : Feed) :
    (chain snapshots (before ++ .limit most :: after) source).requests ≤
      (chain snapshots before source).firstRequests most.toNat := by
  have hsplit : chain snapshots (before ++ .limit most :: after) source =
      chain snapshots after ((chain snapshots before source).take most.toNat) := by
    rw [chain, List.foldl_append]
    rfl
  rw [hsplit, ← Feed.requests_take]
  exact requests_chain_le snapshots after _

namespace Pipeline

/-- **Requests are least.** In a pipeline without groups and sorts, over a source that emits one document
for each request:

- the stream that is made is at its end, or about to make its first request, of which it has used nothing;
- when a pull returns a document, the requests so far are the least number of source documents of which
  the pipeline, run on their list, makes as many documents as were pulled;
- up to its end the stream makes no more requests than a limit takes of the stages before it, and none at
  all if the limit is not positive. -/
theorem requests_are_least (snapshots : Snapshots) {pipeline : Pipeline}
    (h : ∀ stage ∈ pipeline.stages, stage.OnDemand) (documents : List Fields) :
    let stream := pipeline.execute snapshots (.ofList documents)
    (∀ rest, pipeline.execute snapshots (.ask rest) = .stop ∨
      pipeline.execute snapshots (.ask rest) = .ask fun _ => pipeline.execute snapshots (rest ())) ∧
    (∀ pulled document rest, (stream.after pulled).next.2 = some (document, rest) →
      pulled + 1 ≤ (pipeline.onList snapshots
        (documents.take (stream.firstRequests (pulled + 1)))).length ∧
      ∀ count, pulled + 1 ≤ (pipeline.onList snapshots (documents.take count)).length →
        stream.firstRequests (pulled + 1) ≤ count) ∧
    ∀ before most after, pipeline.stages = before ++ .limit most :: after →
      stream.requests ≤ (chain snapshots before (.ofList documents)).firstRequests most.toNat ∧
      (most ≤ 0 → stream.requests = 0) := by
  intro stream
  -- what is emitted within some requests is what the stages make of as many documents
  have hwithin : ∀ count,
      stream.within count = pipeline.onList snapshots (documents.take count) := by
    intro count
    rw [← Feed.within_ofList]
    exact within_chain h count (.ofList documents)
  refine ⟨chain_ask h, ?_, ?_⟩
  · intro pulled document rest hpull
    -- so many requests are enough for a pull exactly if the list of as many documents has its result
    have hiff : ∀ count, pulled + 1 ≤ (pipeline.onList snapshots (documents.take count)).length ↔
        stream.firstRequests (pulled + 1) ≤ count := by
      intro count
      rw [← hwithin]
      exact Feed.lt_length_within_iff hpull count
    exact ⟨(hiff _).mpr (Nat.le_refl _), fun count => (hiff count).mp⟩
  · intro before most after hstages
    have hle : stream.requests ≤
        (chain snapshots before (.ofList documents)).firstRequests most.toNat := by
      show (chain snapshots pipeline.stages (.ofList documents)).requests ≤ _
      rw [hstages]
      exact requests_chain_limit_le snapshots before after most (.ofList documents)
    refine ⟨hle, fun hnone => ?_⟩
    rw [Int.toNat_of_nonpos hnone] at hle
    exact Nat.le_zero.mp hle

/-- The second result needs the third document: the first one makes two, of which one is passed over, the
second one makes none. -/
theorem requests_are_least_unwind :
    let documents : List Fields := [[("tags", .array [.string "a", .string "b"])], [("tags", .array [])],
      [("tags", .string "c")], [("tags", .string "d")]]
    let pipeline : Pipeline :=
      ⟨[.unwind ⟨⟨["tags"], by simp⟩, false, none⟩, .skip 1, .limit 2], by decide⟩
    let stream := pipeline.execute [] (.ofList documents)
    (∀ stage ∈ pipeline.stages, stage.OnDemand) ∧ stream.firstRequests 2 = 3 ∧ stream.requests = 3 ∧
      2 ≤ (pipeline.onList [] (documents.take 3)).length ∧
      ∀ count, 2 ≤ (pipeline.onList [] (documents.take count)).length → 3 ≤ count := by
  intro documents pipeline stream
  have hdemand : ∀ stage ∈ pipeline.stages, stage.OnDemand := by
    unfold pipeline
    decide
  have hpull : ∃ document rest, (stream.after 1).next.2 = some (document, rest) := ⟨_, _, rfl⟩
  have hfirst : stream.firstRequests 2 = 3 := rfl
  have hall : stream.requests = 3 := rfl
  obtain ⟨document, rest, hpull⟩ := hpull
  obtain ⟨-, hleast, -⟩ := requests_are_least [] hdemand documents
  obtain ⟨henough, hless⟩ := hleast 1 document rest hpull
  exact ⟨hdemand, hfirst, hall, henough, hless⟩

end Pipeline
end Docstore

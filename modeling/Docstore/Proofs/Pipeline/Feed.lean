import Docstore.Pipeline.Feed

/-!
# `Docstore.Proofs.Pipeline.Feed` — feeds and the lists they stand for

A feed is seen through its pulls. One pull takes the first document of `Feed.toList` and leaves a feed
with the others, or it ends and there are none; everything said of runs of pulls follows from that
step by induction on the documents still to come.

## Contents
- **Pulling.** `Feed.PullsTo` pulls up to the first end, `Feed.firstPulls` a given number of times;
  both read `Feed.toList`.
- **Pulls and requests.** `Feed.after` is what some pulls leave, `Feed.firstRequests` what they take.
- **Combinators.** What each combinator does to `Feed.toList` is what the list function of its name
  does to the list.
-/

namespace Docstore.Feed

/-! ## Pulling -/

/-- Pulling a feed up to its first end returns these documents, one by one. -/
inductive PullsTo : Feed → List Fields → Prop where
  | done {feed : Feed} (h : feed.next.2 = none) : PullsTo feed []
  | more {feed rest : Feed} {document : Fields} {documents : List Fields}
      (h : feed.next.2 = some (document, rest)) (later : PullsTo rest documents) :
      PullsTo feed (document :: documents)

/-- The number of requests already made has no bearing on the next document. -/
theorem nextFrom_snd (feed : Feed) (count : Nat) : (feed.nextFrom count).2 = feed.next.2 := by
  unfold next
  induction feed generalizing count with
  | stop => rfl
  | emit document rest _ => rfl
  | ask rest ih =>
      simp only [nextFrom]
      rw [ih () (count + 1), ih () (0 + 1)]

/-- **One pull.** The next document is the first one of the feed, and the feed after it has the
others. -/
theorem toList_eq_next (feed : Feed) :
    feed.toList = match feed.next.2 with
      | some (document, rest) => document :: rest.toList
      | none => [] := by
  induction feed with
  | stop => rfl
  | emit document rest _ => rfl
  | ask rest ih =>
      have hnext : (ask rest).next.2 = (rest ()).next.2 := nextFrom_snd (rest ()) (0 + 1)
      rw [hnext]
      exact ih ()

theorem toList_of_next_none {feed : Feed} (h : feed.next.2 = none) : feed.toList = [] := by
  rw [toList_eq_next, h]

/-- The document that a pull returns comes first, before those that are left. -/
theorem toList_of_next_some {feed rest : Feed} {document : Fields}
    (h : feed.next.2 = some (document, rest)) : feed.toList = document :: rest.toList := by
  rw [toList_eq_next, h]

/-- Every feed comes to an end, after all of its documents. -/
theorem pullsTo_toList (feed : Feed) : feed.PullsTo feed.toList := by
  -- a pull may pass many requests, so the induction is on the documents to come, not on the feed
  generalize hd : feed.toList = documents
  induction documents generalizing feed with
  | nil =>
      cases h : feed.next.2 with
      | none => exact .done h
      | some found =>
          have := toList_of_next_some h
          rw [hd] at this
          exact absurd this (by simp)
  | cons document documents ih =>
      cases h : feed.next.2 with
      | none =>
          have := toList_of_next_none h
          rw [hd] at this
          exact absurd this (by simp)
      | some found =>
          obtain ⟨first, rest⟩ := found
          have hcons := toList_of_next_some h
          rw [hd] at hcons
          injection hcons with hfirst hrest
          subst hfirst
          exact .more h (ih rest hrest.symm)

/-- Pulling a feed up to its first end returns its documents and nothing else. -/
theorem pullsTo_iff {feed : Feed} {documents : List Fields} :
    feed.PullsTo documents ↔ feed.toList = documents := by
  constructor
  · intro h
    induction h with
    | done h => exact toList_of_next_none h
    | more h _ ih => rw [toList_of_next_some h, ih]
  · intro h
    exact h ▸ pullsTo_toList feed

/-- What is left of a feed after some pulls. Nothing is left after its end. -/
def after : Nat → Feed → Feed
  | 0, feed => feed
  | count + 1, feed =>
    match feed.next.2 with
    | some (_, rest) => after count rest
    | none => stop

/-- The number of requests that the first pulls take. From the first end on they take none. -/
def firstRequests : Nat → Feed → Nat
  | 0, _ => 0
  | count + 1, feed =>
    match feed.next.2 with
    | some (_, rest) => feed.next.1 + firstRequests count rest
    | none => feed.next.1

/-- A pull that returns a document leaves the rest to the pulls after it. -/
theorem after_of_next_some {feed rest : Feed} {document : Fields}
    (h : feed.next.2 = some (document, rest)) (count : Nat) :
    feed.after (count + 1) = rest.after count := by
  rw [after, h]

theorem after_of_next_none {feed : Feed} (h : feed.next.2 = none) (count : Nat) :
    feed.after (count + 1) = stop := by
  rw [after, h]

/-- The requests of a pull that returns a document come on top of those that the rest takes. -/
theorem firstRequests_of_next_some {feed rest : Feed} {document : Fields}
    (h : feed.next.2 = some (document, rest)) (count : Nat) :
    feed.firstRequests (count + 1) = feed.next.1 + rest.firstRequests count := by
  rw [firstRequests, h]

/-- Requests already made are counted on top of those that the next document takes. -/
theorem nextFrom_fst (feed : Feed) (count : Nat) : (feed.nextFrom count).1 = feed.next.1 + count := by
  unfold next
  induction feed generalizing count with
  | stop => exact (Nat.zero_add count).symm
  | emit document rest _ => exact (Nat.zero_add count).symm
  | ask rest ih =>
      simp only [nextFrom]
      rw [ih () (count + 1), ih () (0 + 1)]
      omega

theorem next_ask (rest : Unit → Feed) :
    (ask rest).next = ((rest ()).next.1 + 1, (rest ()).next.2) :=
  Prod.ext (nextFrom_fst (rest ()) (0 + 1)) (nextFrom_snd (rest ()) (0 + 1))

/-- Every pull of a source, and the one that finds its end, takes one request. -/
theorem requests_after_ofList {documents : List Fields} {count : Nat} (h : count ≤ documents.length + 1) :
    ((ofList documents).after count).requests + count = documents.length + 1 := by
  induction documents generalizing count with
  | nil =>
      obtain rfl | rfl : count = 0 ∨ count = 1 := by simp only [List.length_nil] at h; omega
      · rfl
      · rfl
  | cons document rest ih =>
      cases count with
      | zero =>
          have hrest : (ofList rest).requests + 0 = rest.length + 1 := ih (Nat.zero_le _)
          simp only [after, ofList, requests, List.length_cons]
          omega
      | succ count =>
          have hpull : (ofList (document :: rest)).next.2 = some (document, ofList rest) := rfl
          have hrest : ((ofList rest).after count).requests + count = rest.length + 1 :=
            ih (by simp only [List.length_cons] at h; omega)
          rw [after_of_next_some hpull]
          simp only [List.length_cons]
          omega

/-! ## Combinators -/

@[simp] theorem toList_ofList (documents : List Fields) : (ofList documents).toList = documents := by
  induction documents with
  | nil => rfl
  | cons document rest ih => simp [ofList, toList, ih]

@[simp] theorem toList_emitAll (documents : List Fields) (rest : Unit → Feed) :
    (emitAll documents rest).toList = documents ++ (rest ()).toList := by
  induction documents with
  | nil => rfl
  | cons document others ih => simp [emitAll, toList, ih]

@[simp] theorem toList_map (f : Fields → Fields) (feed : Feed) :
    (feed.map f).toList = feed.toList.map f := by
  induction feed with
  | stop => rfl
  | emit document rest ih => simp [map, toList, ih]
  | ask rest ih => simp [map, toList, ih]

@[simp] theorem toList_filter (test : Fields → Bool) (feed : Feed) :
    (feed.filter test).toList = feed.toList.filter test := by
  induction feed with
  | stop => rfl
  | emit document rest ih =>
      simp only [filter, toList]
      by_cases h : test document = true
      · rw [if_pos h, List.filter_cons_of_pos h, toList, ih]
      · rw [if_neg h, List.filter_cons_of_neg h, ih]
  | ask rest ih => simp [filter, toList, ih]

/-- A flat map puts in the place of each document what it makes of it. -/
@[simp] theorem toList_flatMap (f : Fields → List Fields) (feed : Feed) :
    (feed.flatMap f).toList = feed.toList.flatMap f := by
  induction feed with
  | stop => rfl
  | emit document rest ih => simp [flatMap, toList, ih]
  | ask rest ih => simp [flatMap, toList, ih]

@[simp] theorem toList_take (count : Nat) (feed : Feed) :
    (feed.take count).toList = feed.toList.take count := by
  induction feed generalizing count with
  | stop => cases count <;> rfl
  | emit document rest ih => cases count <;> simp [take, toList, ih]
  | ask rest ih => cases count <;> simp [take, toList, ih]

@[simp] theorem toList_skip (count : Nat) (feed : Feed) :
    (feed.skip count).toList = feed.toList.drop count := by
  induction feed generalizing count with
  | stop => cases count <;> rfl
  | emit document rest ih => cases count <;> simp [skip, toList, ih]
  | ask rest ih => cases count <;> simp [skip, toList, ih]

/-- A gathering feed makes its documents of all that it has taken and of all that are left. -/
theorem toList_gatherFrom (f : List Fields → List Fields) (taken : List Fields) (feed : Feed) :
    (gatherFrom f taken feed).toList = f (taken.reverse ++ feed.toList) := by
  induction feed generalizing taken with
  | stop => simp [gatherFrom, toList]
  | emit document rest ih => simp [gatherFrom, toList, ih]
  | ask rest ih => simp [gatherFrom, toList, ih]

@[simp] theorem toList_gather (f : List Fields → List Fields) (feed : Feed) :
    (feed.gather f).toList = f feed.toList := by
  unfold gather
  rw [toList_gatherFrom]
  rfl

end Docstore.Feed

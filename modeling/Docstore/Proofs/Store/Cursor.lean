import Docstore.Proofs.Pipeline.Feed
import Docstore.Store.Cursor

/-!
# `Docstore.Proofs.Store.Cursor` — a cursor ends once

A cursor is asked again and again and closed at last. Its answers are the first documents of its feed, as
many as the bound allows, and nothing from then on; and among all calls, the closing one included, exactly
one ends the aggregation.

`Steps` lists the three things that a call can do before the end: return the document it pulled, find the
end of the feed, or find one document too many. `EndsOnce` says what a run of calls adds up to from any
cursor that has not ended; a returned document is put in front of the run after it, and each of the two
ends makes every later call idle.

## Contents
- **Calls.** `calls`, `pulls` and `records` of a run; `calls_of_finished` after the end.
- **One call.** `Steps`, `steps_next`.
- **Runs.** `EndsOnce`, `exists_endsOnce`; `calls_end_once` for a cursor from its start.
- **All documents at once.** `drain_eq_next`.
-/

namespace Docstore

namespace Cursor

variable {cursor : Cursor} {elapsed : Nat}

/-! ## Calls -/

/-- What a run of calls answers, with the end of the aggregation where a call ends it, and the cursor after
the run. The calls are given by the milliseconds that have passed. -/
def calls (cursor : Cursor) : List Nat → List (Option Fields × Option Completion) × Cursor
  | [] => ([], cursor)
  | elapsed :: rest =>
    let (answer, after, ended) := cursor.next elapsed
    let (later, last) := calls after rest
    ((answer, ended) :: later, last)

/-- The number of times that a run of calls pulls the feed: an ended cursor leaves it alone. -/
def pulls (cursor : Cursor) : List Nat → Nat
  | [] => 0
  | elapsed :: rest =>
    (if cursor.finished then 0 else 1) + pulls (cursor.next elapsed).2.1 rest

/-- What each call of a run writes about the end of the aggregation, and then the closing. -/
def records (cursor : Cursor) (times : List Nat) (elapsed : Nat) : List (Option Completion) :=
  (cursor.calls times).1.map Prod.snd ++ [(cursor.calls times).2.close elapsed]

/-- A run of calls is its first call, and then the run of the others from where that leaves the cursor. -/
theorem calls_cons {answer : Option Fields} {after : Cursor} {ended : Option Completion}
    (h : cursor.next elapsed = (answer, after, ended)) (rest : List Nat) :
    cursor.calls (elapsed :: rest) = ((answer, ended) :: (after.calls rest).1, (after.calls rest).2) := by
  rw [calls, h]

theorem next_of_finished (h : cursor.finished = true) (elapsed : Nat) :
    cursor.next elapsed = (none, cursor, none) := by
  rw [next, if_pos h]

/-- **After the end.** Calls answer nothing, write nothing and change nothing, whatever the feed is. -/
theorem calls_of_finished (h : cursor.finished = true) (times : List Nat) :
    cursor.calls times = (List.replicate times.length (none, none), cursor) := by
  induction times with
  | nil => rfl
  | cons elapsed rest ih =>
      rw [calls_cons (next_of_finished h elapsed), ih, List.length_cons, List.replicate_succ]

theorem pulls_of_finished (h : cursor.finished = true) (times : List Nat) : cursor.pulls times = 0 := by
  induction times with
  | nil => rfl
  | cons elapsed rest ih => rw [pulls, if_pos h, next_of_finished h, ih]

theorem close_of_finished (h : cursor.finished = true) (elapsed : Nat) : cursor.close elapsed = none := by
  rw [close, if_pos h]

theorem isFull_iff {produced : Nat} {bound : Option Nat} :
    isFull produced bound = true ↔ ∃ most, bound = some most ∧ most ≤ produced := by
  cases bound <;> simp [isFull]

/-! ## One call -/

/-- What a call can do before the end. -/
inductive Steps (cursor : Cursor) (elapsed : Nat) :
    Option Fields × Cursor × Option Completion → Prop where
  | returns {document : Fields} {rest : Feed} (hpull : cursor.feed.next.2 = some (document, rest))
      (hroom : isFull cursor.produced cursor.bound = false) :
      Steps cursor elapsed
        (some document, { cursor with feed := rest, produced := cursor.produced + 1 }, none)
  | exhausts (hpull : cursor.feed.next.2 = none) :
      Steps cursor elapsed
        (none, { cursor with feed := .stop, finished := true }, some (cursor.completion elapsed true))
  | truncates {document : Fields} {rest : Feed} (hpull : cursor.feed.next.2 = some (document, rest))
      (hfull : isFull cursor.produced cursor.bound = true) :
      Steps cursor elapsed
        (none, { cursor with feed := rest, finished := true }, some (cursor.completion elapsed false))

/-- **One call.** -/
theorem steps_next (h : cursor.finished = false) (elapsed : Nat) :
    cursor.Steps elapsed (cursor.next elapsed) := by
  rw [next, if_neg (by simp [h])]
  cases hpull : cursor.feed.next.2 with
  | none => exact .exhausts hpull
  | some found =>
      obtain ⟨document, rest⟩ := found
      cases hfull : isFull cursor.produced cursor.bound with
      | true => exact .truncates hpull hfull
      | false => exact .returns hpull hfull

/-! ## Runs -/

/-- What a run of calls and the closing after it add up to: the cursor returns some documents and is idle
from then on, and the call after the last document, or else the closing, ends the aggregation. -/
structure EndsOnce (cursor : Cursor) (times : List Nat) (elapsed : Nat) (returned : List Fields)
    (idle : Nat) (exhausted : Bool) (spent : Nat) : Prop where
  answers : (cursor.calls times).1.map Prod.fst = returned.map some ++ List.replicate idle none
  records : cursor.records times elapsed =
    List.replicate returned.length none ++
      some ⟨cursor.collection, cursor.stages, cursor.produced + returned.length, exhausted,
        cursor.slowMillis ≤ Count.saturate spent, Count.saturate spent⟩ :: List.replicate idle none
  spent : (times ++ [elapsed])[returned.length]? = some spent
  initial : returned <+: cursor.feed.toList
  bounded : ∀ most, cursor.bound = some most → cursor.produced ≤ most →
    cursor.produced + returned.length ≤ most
  complete : 0 < idle → returned = cursor.feed.toList ∨
    isFull (cursor.produced + returned.length) cursor.bound = true
  exhausted_iff : exhausted = true ↔ 0 < idle ∧ returned = cursor.feed.toList
  pulls : cursor.pulls times = returned.length + min idle 1
  feed : (cursor.calls times).2.feed = cursor.feed.after (cursor.pulls times)
  finished : 0 < idle → (cursor.calls times).2.finished = true

/-- A call that ends the aggregation makes all calls after it idle. -/
theorem endsOnce_of_end {after : Cursor} {exhausted : Bool} {spent : Nat} (h : cursor.finished = false)
    (hnext : cursor.next spent = (none, after, some (cursor.completion spent exhausted)))
    (hfinished : after.finished = true) (hfeed : after.feed = cursor.feed.after 1)
    (hcomplete : cursor.feed.toList = [] ∨ isFull cursor.produced cursor.bound = true)
    (hexhausted : exhausted = true ↔ cursor.feed.toList = []) (rest : List Nat) (elapsed : Nat) :
    cursor.EndsOnce (spent :: rest) elapsed [] (rest.length + 1) exhausted spent := by
  have hcalls : cursor.calls (spent :: rest) =
      ((none, some (cursor.completion spent exhausted)) :: List.replicate rest.length (none, none),
        after) := by
    rw [calls_cons hnext, calls_of_finished hfinished]
  have hpulls : cursor.pulls (spent :: rest) = 1 := by
    rw [Cursor.pulls, if_neg (by simp [h]), hnext, pulls_of_finished hfinished]
  constructor
  case answers =>
    rw [hcalls]
    simp [List.replicate_succ]
  case records =>
    rw [Cursor.records, hcalls, close_of_finished hfinished]
    simp [completion, List.replicate_succ']
  case spent => rfl
  case initial => exact List.nil_prefix
  case bounded => exact fun most _ hle => hle
  case complete => exact fun _ => hcomplete.imp_left Eq.symm
  case exhausted_iff =>
    exact hexhausted.trans ⟨fun hnil => ⟨Nat.succ_pos _, hnil.symm⟩, fun hnil => hnil.2.symm⟩
  case pulls => simp [hpulls]
  case feed => rw [hcalls, hpulls, hfeed]
  case finished => simp [hcalls, hfinished]

/-- A call that returns a document puts it in front of what the run after it adds up to. -/
theorem EndsOnce.returns {document : Fields} {rest : Feed} {times : List Nat} {now : Nat}
    {returned : List Fields} {idle : Nat} {exhausted : Bool} {spent : Nat}
    (h : cursor.finished = false) (hpull : cursor.feed.next.2 = some (document, rest))
    (hroom : isFull cursor.produced cursor.bound = false)
    (hnext : cursor.next now =
      (some document, { cursor with feed := rest, produced := cursor.produced + 1 }, none))
    (hrun : { cursor with feed := rest, produced := cursor.produced + 1 }.EndsOnce times elapsed returned
      idle exhausted spent) :
    cursor.EndsOnce (now :: times) elapsed (document :: returned) idle exhausted spent := by
  have hcalls := calls_cons hnext times
  have hlist : cursor.feed.toList = document :: rest.toList := Feed.toList_of_next_some hpull
  have hpulls : cursor.pulls (now :: times) = returned.length + min idle 1 + 1 := by
    rw [Cursor.pulls, if_neg (by simp [h]), hnext, hrun.pulls, Nat.add_comm]
  constructor
  case answers => rw [hcalls, List.map_cons, hrun.answers]; rfl
  case records =>
    have hlater := hrun.records
    rw [Cursor.records] at hlater ⊢
    rw [hcalls, List.map_cons, List.cons_append, hlater]
    simp [List.replicate_succ, Nat.add_assoc, Nat.add_comm 1]
  case spent => simpa using hrun.spent
  case initial => rw [hlist]; exact List.cons_prefix_cons.mpr ⟨rfl, hrun.initial⟩
  case bounded =>
    intro most hmost hle
    -- there was room for the document, so one more is still within the bound
    have hlt : cursor.produced < most := by
      refine Nat.lt_of_not_le fun hfull => ?_
      rw [isFull_iff.mpr ⟨most, hmost, hfull⟩] at hroom
      exact absurd hroom (by simp)
    have hlater := hrun.bounded most hmost hlt
    simp only [List.length_cons] at hlater ⊢
    omega
  case complete =>
    intro hidle
    have hlater := hrun.complete hidle
    rw [Nat.add_right_comm] at hlater
    rw [hlist, List.cons.injEq, List.length_cons, ← Nat.add_assoc]
    exact hlater.imp_left fun hall => ⟨rfl, hall⟩
  case exhausted_iff => rw [hrun.exhausted_iff, hlist, List.cons.injEq]; simp
  case pulls => rw [hpulls, List.length_cons]; omega
  case feed =>
    rw [hpulls, Feed.after_of_next_some hpull, hcalls, ← hrun.pulls]
    exact hrun.feed
  case finished => rw [hcalls]; exact hrun.finished

/-- **Runs.** Every run of calls before the end, closed at last, ends the aggregation once. -/
theorem exists_endsOnce (h : cursor.finished = false) (times : List Nat) (elapsed : Nat) :
    ∃ returned idle exhausted spent,
      cursor.EndsOnce times elapsed returned idle exhausted spent := by
  induction times generalizing cursor with
  | nil =>
      -- nothing was called: the closing ends the aggregation
      refine ⟨[], 0, false, elapsed, ?_⟩
      constructor
      case records =>
        simp only [Cursor.records, calls, close, h]
        rfl
      case initial => exact List.nil_prefix
      case bounded => exact fun most _ hle => hle
      all_goals simp [calls, Cursor.pulls, Feed.after]
  | cons now rest ih =>
      have hstep := steps_next h now
      generalize hnext : cursor.next now = result at hstep
      cases hstep with
      | @returns document feed hpull hroom =>
          let after : Cursor := { cursor with feed := feed, produced := cursor.produced + 1 }
          have hafter : after.finished = false := h
          obtain ⟨returned, idle, exhausted, spent, hrun⟩ := ih hafter
          exact ⟨document :: returned, idle, exhausted, spent, .returns h hpull hroom hnext hrun⟩
      | exhausts hpull =>
          refine ⟨[], _, true, now, endsOnce_of_end h hnext rfl ?_ ?_ ?_ rest elapsed⟩
          · exact (Feed.after_of_next_none hpull 0).symm
          · exact .inl (Feed.toList_of_next_none hpull)
          · simp [Feed.toList_of_next_none hpull]
      | truncates hpull hfull =>
          refine ⟨[], _, false, now, endsOnce_of_end h hnext rfl ?_ ?_ ?_ rest elapsed⟩
          · exact (Feed.after_of_next_some hpull 0).symm
          · exact .inr hfull
          · simp [Feed.toList_of_next_some hpull]

/-- **A cursor returns the first documents and ends once.** Let a cursor over a feed be asked any number of
times and then be closed. The answers are some documents and nothing from then on. The documents are the
first ones of the feed, in order, and no more than the bound; a call answers nothing only if they are all
of the feed or as many as the bound. Among the calls and the closing exactly one writes the end of the
aggregation: the first call that answers nothing, or else the closing. It writes how many documents were
returned, and the time at that call, which it compares with what counts as slow; the documents were exhausted
if a call answered nothing and the feed has no others. From then on calls answer and write nothing and leave
alone whatever feed there is. The feed is pulled once for every document returned and once for the first
answer that is none, at most once more than the bound; each pull of a source is one request. -/
theorem calls_end_once (feed : Feed) (collection : String) (stages : Nat) (bound : Option Nat)
    (slowMillis : Nat) (times : List Nat) (elapsed : Nat) :
    let cursor := start feed collection stages bound slowMillis
    let last := (cursor.calls times).2
    ∃ returned idle exhausted spent,
      (cursor.calls times).1.map Prod.fst = returned.map some ++ List.replicate idle none ∧
      returned <+: feed.toList ∧
      (∀ most, bound = some most → returned.length ≤ most) ∧
      (0 < idle → returned = feed.toList ∨ bound = some returned.length) ∧
      cursor.records times elapsed =
        List.replicate returned.length none ++
          some ⟨collection, stages, returned.length, exhausted, slowMillis ≤ Count.saturate spent,
            Count.saturate spent⟩ :: List.replicate idle none ∧
      (times ++ [elapsed])[returned.length]? = some spent ∧
      (exhausted = true ↔ 0 < idle ∧ returned = feed.toList) ∧
      (0 < idle → ∀ (other : Feed) (later : List Nat),
        { last with feed := other }.calls later =
          (List.replicate later.length (none, none), { last with feed := other })) ∧
      cursor.pulls times = returned.length + min idle 1 ∧
      (∀ most, bound = some most → cursor.pulls times ≤ most + 1) ∧
      last.feed = feed.after (cursor.pulls times) ∧
      ∀ documents, feed = .ofList documents →
        last.feed.requests + cursor.pulls times = documents.length + 1 := by
  intro cursor last
  have hstart : cursor.finished = false := rfl
  obtain ⟨returned, idle, exhausted, spent, hrun⟩ := exists_endsOnce hstart times elapsed
  -- the cursor starts with nothing produced, so what the run says of all documents is about the returned ones
  have hbounded : ∀ most, bound = some most → returned.length ≤ most := by
    intro most hmost
    have hle := hrun.bounded most hmost (Nat.zero_le most)
    rwa [show cursor.produced = 0 from rfl, Nat.zero_add] at hle
  have hrecords := hrun.records
  rw [show cursor.produced = 0 from rfl, Nat.zero_add] at hrecords
  refine ⟨returned, idle, exhausted, spent, hrun.answers, hrun.initial, hbounded, ?_, hrecords, hrun.spent,
    hrun.exhausted_iff, ?_, hrun.pulls, ?_, hrun.feed, ?_⟩
  · intro hidle
    refine (hrun.complete hidle).imp_right fun hfull => ?_
    rw [show cursor.produced = 0 from rfl, Nat.zero_add] at hfull
    obtain ⟨most, hmost, hle⟩ := isFull_iff.mp hfull
    rw [← Nat.le_antisymm hle (hbounded most hmost)]
    exact hmost
  · -- an ended cursor does not look at its feed
    intro hidle other later
    have hended : ({ last with feed := other } : Cursor).finished = true := hrun.finished hidle
    exact calls_of_finished hended later
  · intro most hmost
    have hlength := hbounded most hmost
    have hpulls := hrun.pulls
    omega
  · intro documents hsource
    have hlist : cursor.feed.toList = documents := by
      show feed.toList = documents
      rw [hsource, Feed.toList_ofList]
    -- every pull of a source is one request, and the last finds its end
    have hlength := hrun.initial.length_le
    rw [hlist] at hlength
    have hpulls := hrun.pulls
    show last.feed.requests + cursor.pulls times = documents.length + 1
    rw [hrun.feed, show cursor.feed = .ofList documents from hsource]
    exact Feed.requests_after_ofList (by omega)

/-- Three documents and a bound of two: the third call finds one document too many. -/
example : ((start (.ofList [[("n", .int32 1)], [("n", .int32 2)], [("n", .int32 3)]]) "c" 0 (some 2) 5).records
    [0, 0, 9, 9] 9) = [none, none, some ⟨"c", 0, 2, false, true, 9⟩, none, none] := by decide

/-! ## All documents at once -/

/-- Draining a feed goes by its pulls, one document at a time. -/
theorem drainFeed_eq_next (bound : Option Nat) (taken : List Fields) (produced : Nat) (feed : Feed) :
    drainFeed bound taken produced feed =
      match feed.next.2 with
      | none => (taken, produced, true)
      | some (document, rest) =>
        if isFull produced bound then (taken, produced, false)
        else drainFeed bound (document :: taken) (produced + 1) rest := by
  induction feed with
  | stop => rfl
  | emit document rest _ => rfl
  | ask rest ih =>
      have hnext : (Feed.ask rest).next.2 = (rest ()).next.2 := Feed.nextFrom_snd (rest ()) (0 + 1)
      rw [hnext]
      exact ih ()

theorem drainFeed_append (bound : Option Nat) (taken : List Fields) (produced : Nat) (feed : Feed) :
    drainFeed bound taken produced feed =
      ((drainFeed bound [] produced feed).1 ++ taken, (drainFeed bound [] produced feed).2) := by
  induction feed generalizing taken produced with
  | stop => rfl
  | emit document rest ih =>
      unfold drainFeed
      split
      · rfl
      · rw [ih () (document :: taken), ih () [document]]
        simp
  | ask rest ih => exact ih () taken produced

/-- **Draining is calling.** To drain a cursor is to ask for the next document and drain what is left. -/
theorem drain_eq_next (h : cursor.finished = false) (elapsed : Nat) :
    cursor.drain elapsed = match cursor.next elapsed with
      | (some document, after, _) => (document :: (after.drain elapsed).1, (after.drain elapsed).2)
      | (none, _, ended) => ([], ended) := by
  have hstep := steps_next h elapsed
  generalize cursor.next elapsed = result at hstep
  rw [drain, if_neg (by simp [h]), drainFeed_eq_next]
  cases hstep with
  | @returns document rest hpull hroom =>
      simp only [hpull, hroom, Bool.false_eq_true, if_false, drain, h]
      rw [drainFeed_append _ [document]]
      simp [completion]
  | exhausts hpull => simp [hpull]
  | truncates hpull hfull => simp [hpull, hfull]

end Cursor
end Docstore

import Docstore.Proofs.Store.Cursor
import Docstore.Proofs.Store.Stored

/-!
# `Docstore.Proofs.Store.Counters` — counters match what happened

A `Process` has databases, and cursors over them, which share one activity. Its counters are compared with what
can be seen without them: the documents that the collections hold before and after an action (`added`), the
errors that come back (`refusesDuplicate`), and what each cursor has answered (`Opened`).

Calls and cursors count different things, so there is one lemma about each: `counters_call` for a call on a
database, and `Opened.Fits.handle` for the use of a cursor, which ends an aggregation at most once. A process
stays `Tallied` under both, and a run counts what its actions count.

## Contents
- **Processes.** `Opened`, `Process`, `Action`; `perform`, `run` and `history`.
- **Cursors.** `Opened.Fits` and `Opened.Accounts`; what each use of a cursor comes to.
- **Steps.** `Tallied`, kept by every action; `Counts`, what an action counts.
- **Runs.** `counters_match_history`.
-/

namespace Docstore

/-! ## Processes -/

/-- A cursor that was opened, with what its holder has seen of it. -/
structure Opened where
  cursor : Cursor
  /-- What it has answered, the latest answer last. -/
  answers : List (Option Fields)
  /-- Was it drained or dropped? Nobody can use it from then on. -/
  gone : Bool

/-- What the holder of a cursor can do with it. -/
inductive Handling where
  | pull | drain | drop

namespace Opened

/-- A cursor after its use, some milliseconds after it was opened, and the end of the aggregation if the use
ends it. -/
def handle (opened : Opened) (handling : Handling) (elapsed : Nat) : Opened × Option Completion :=
  if opened.gone then (opened, none)
  else
    match handling with
    | .pull =>
      let (answer, cursor, completion) := opened.cursor.next elapsed
      (⟨cursor, opened.answers ++ [answer], false⟩, completion)
    | .drain =>
      let (documents, completion) := opened.cursor.drain elapsed
      (⟨opened.cursor, opened.answers ++ documents.map some ++ [none], true⟩, completion)
    | .drop => (⟨opened.cursor, opened.answers, true⟩, opened.cursor.close elapsed)

/-- The documents that a cursor has returned. -/
def returned (opened : Opened) : List Fields := opened.answers.filterMap id

/-- Was a cursor drained, truncated or dropped? One that answers nothing has come to its end or its bound. -/
def ended (opened : Opened) : Bool := opened.gone || opened.answers.any Option.isNone

end Opened

/-- Databases and cursors that share one activity. -/
structure Process where
  databases : List Database
  /-- All cursors that were ever opened. -/
  cursors : List Opened
  activity : Activity

/-- What can happen in a process. Databases and cursors are named by their places; where there is none,
nothing happens. -/
inductive Action where
  /-- Another database, without collections. -/
  | addDatabase (options : DatabaseOptions)
  | call (place : Nat) (collection : String) (operation : Operation)
  | aggregate (place : Nat) (collection : String) (pipeline : Pipeline)
  | handle (place : Nat) (handling : Handling) (elapsed : Nat)

namespace Process

/-- A process without databases, which has counted nothing. -/
def start (supply : IdSupply) : Process := ⟨[], [], .start supply⟩

/-- The process after a call on a database. -/
def call (process : Process) (place : Nat) (collection : String) (operation : Operation) : Process :=
  match process.databases[place]? with
  | none => process
  | some database =>
    let call : Call := ⟨collection, operation, process.activity⟩
    { process with
      databases := process.databases.set place (call.perform database)
      activity := call.activityAfter database }

/-- The process after the start of an aggregation. -/
def aggregate (process : Process) (place : Nat) (collection : String) (pipeline : Pipeline) : Process :=
  match process.databases[place]? with
  | none => process
  | some database =>
    { process with cursors := process.cursors ++ [⟨database.aggregate collection pipeline, [], false⟩] }

/-- The process after the use of a cursor. -/
def handle (process : Process) (place : Nat) (handling : Handling) (elapsed : Nat) : Process :=
  match process.cursors[place]? with
  | none => process
  | some opened =>
    let (handled, completion) := opened.handle handling elapsed
    { process with
      cursors := process.cursors.set place handled
      activity := process.activity.enter completion }

/-- The process after an action. -/
def perform (process : Process) : Action → Process
  | .addDatabase options => { process with databases := process.databases ++ [.empty options] }
  | .call place collection operation => process.call place collection operation
  | .aggregate place collection pipeline => process.aggregate place collection pipeline
  | .handle place handling elapsed => process.handle place handling elapsed

/-- The error that an action returns. -/
def error? (process : Process) : Action → Option StoreError
  | .call place collection operation =>
    process.databases[place]?.bind fun database =>
      Call.error? ⟨collection, operation, process.activity⟩ database
  | _ => none

/-- The number of documents in the collections of all databases. -/
def stored (process : Process) : Nat := (process.databases.map Database.stored).sum

/-- The number of documents that an action adds to collections. -/
def added (process : Process) (action : Action) : Nat := (process.perform action).stored - process.stored

/-- Does an action return the error about an identifier that is taken? -/
def refusesDuplicate (process : Process) (action : Action) : Bool :=
  (process.error? action).any StoreError.isDuplicate

/-- The process after actions, performed one after another. -/
def run (process : Process) : List Action → Process
  | [] => process
  | action :: rest => (process.perform action).run rest

/-- The actions, each with the process as it finds it. -/
def history (process : Process) : List Action → List (Process × Action)
  | [] => []
  | action :: rest => (process, action) :: (process.perform action).history rest

end Process

/-! ## Cursors -/

/-- A drain counts the documents that it takes. -/
theorem Cursor.length_drainFeed (bound : Option Nat) (taken : List Fields) (produced : Nat) (feed : Feed) :
    (drainFeed bound taken produced feed).1.length + produced =
      taken.length + (drainFeed bound taken produced feed).2.1 := by
  induction feed generalizing taken produced with
  | stop => rfl
  | emit document rest ih =>
      unfold drainFeed
      split
      · rfl
      · have hrest := ih () (document :: taken) (produced + 1)
        rw [List.length_cons] at hrest
        omega
  | ask rest ih => exact ih () taken produced

/-- The end of an aggregation that is drained tells of the documents returned before and now. -/
theorem Cursor.drain_of_not_finished {cursor : Cursor} (h : cursor.finished = false) (elapsed : Nat) :
    ∃ completion, (cursor.drain elapsed).2 = some completion ∧
      completion.resultCount = cursor.produced + (cursor.drain elapsed).1.length := by
  have hlength := length_drainFeed cursor.bound [] cursor.produced cursor.feed
  unfold drain
  rw [if_neg (by simp [h])]
  generalize drainFeed cursor.bound [] cursor.produced cursor.feed = result at hlength
  obtain ⟨taken, produced, exhausted⟩ := result
  refine ⟨_, rfl, ?_⟩
  simp only [List.length_nil] at hlength
  simp only [completion, List.length_reverse]
  omega

namespace Opened

variable {opened : Opened}

/-- While a cursor is held it knows what its holder has seen of it. -/
structure Fits (opened : Opened) : Prop where
  finished : opened.gone = false → opened.cursor.finished = opened.ended
  produced : opened.gone = false → opened.cursor.produced = opened.returned.length

/-- What the use of a cursor comes to: either it ends nothing, and what an ended cursor has returned stays the
same, or it ends the cursor and tells how many documents that has returned. -/
inductive Accounts (opened handled : Opened) : Option Completion → Prop where
  | goesOn (hended : handled.ended = opened.ended)
      (hreturned : opened.ended = true → handled.returned = opened.returned) : Accounts opened handled none
  | ends {completion : Completion} (hbefore : opened.ended = false) (hafter : handled.ended = true)
      (hcount : completion.resultCount = handled.returned.length) :
      Accounts opened handled (some completion)

/-- A cursor that is still held has ended exactly if it has answered nothing before. -/
theorem ended_of_held (hheld : opened.gone = false) : opened.ended = opened.answers.any Option.isNone := by
  rw [ended, hheld, Bool.false_or]

/-- **A pull** keeps what the holder of a cursor knows, and accounts for the end if it ends it. -/
theorem Fits.pull (h : opened.Fits) (hheld : opened.gone = false) (elapsed : Nat) :
    (opened.handle .pull elapsed).1.Fits ∧
      opened.Accounts (opened.handle .pull elapsed).1 (opened.handle .pull elapsed).2 := by
  have hfinished := h.finished hheld
  have hproduced := h.produced hheld
  rw [handle, if_neg (by simp [hheld])]
  cases hcursor : opened.cursor.finished with
  | true =>
      -- the cursor has ended before, and answers nothing again
      rw [hcursor] at hfinished
      simp only [Cursor.next_of_finished hcursor]
      constructor
      · constructor
        · intro _
          simp [ended, hcursor]
        · intro _
          simp [returned, hproduced]
      · apply Accounts.goesOn
        · rw [← hfinished]
          simp [ended]
        · intro _
          simp [returned]
  | false =>
      rw [hcursor] at hfinished
      have hopen : opened.answers.any Option.isNone = false := by rw [← ended_of_held hheld, ← hfinished]
      have hstep := Cursor.steps_next hcursor elapsed
      generalize opened.cursor.next elapsed = result at hstep
      cases hstep with
      | returns hpull hroom =>
          constructor
          · constructor
            · intro _
              simp [ended, hcursor, hopen]
            · intro _
              simp [returned, hproduced]
          · apply Accounts.goesOn
            · simp [ended, hheld]
            · -- the cursor has not ended
              intro hended
              cases hfinished.trans hended
      | exhausts | truncates =>
          constructor
          · constructor
            · intro _
              simp [ended]
            · intro _
              simp [returned, hproduced]
          · apply Accounts.ends hfinished.symm
            · simp [ended]
            · simp [returned, hproduced, Cursor.completion]

/-- **A drain** keeps what the holder of a cursor knows, and accounts for the end if it ends it. -/
theorem Fits.drain (h : opened.Fits) (hheld : opened.gone = false) (elapsed : Nat) :
    (opened.handle .drain elapsed).1.Fits ∧
      opened.Accounts (opened.handle .drain elapsed).1 (opened.handle .drain elapsed).2 := by
  have hfinished := h.finished hheld
  have hproduced := h.produced hheld
  rw [handle, if_neg (by simp [hheld])]
  -- nobody holds the cursor after this, so it need not know anything
  refine ⟨⟨nofun, nofun⟩, ?_⟩
  cases hcursor : opened.cursor.finished with
  | true =>
      have hdrain : opened.cursor.drain elapsed = ([], none) := by rw [Cursor.drain, if_pos hcursor]
      rw [hcursor] at hfinished
      simp only [hdrain]
      refine .goesOn hfinished ?_
      intro _
      simp [returned]
  | false =>
      rw [hcursor] at hfinished
      obtain ⟨completion, hcompletion, hcount⟩ := Cursor.drain_of_not_finished hcursor elapsed
      simp only [hcompletion]
      refine .ends hfinished.symm rfl ?_
      rw [hcount, hproduced]
      simp [returned]

/-- **A drop** keeps what the holder of a cursor knows, and accounts for the end if it ends it. -/
theorem Fits.drop (h : opened.Fits) (hheld : opened.gone = false) (elapsed : Nat) :
    (opened.handle .drop elapsed).1.Fits ∧
      opened.Accounts (opened.handle .drop elapsed).1 (opened.handle .drop elapsed).2 := by
  have hfinished := h.finished hheld
  have hproduced := h.produced hheld
  rw [handle, if_neg (by simp [hheld])]
  refine ⟨⟨nofun, nofun⟩, ?_⟩
  cases hcursor : opened.cursor.finished with
  | true =>
      rw [hcursor] at hfinished
      simp only [Cursor.close_of_finished hcursor]
      exact .goesOn hfinished fun _ => rfl
  | false =>
      rw [hcursor] at hfinished
      simp only [Cursor.close, hcursor]
      exact .ends hfinished.symm rfl hproduced

/-- **One use of a cursor.** -/
theorem Fits.handle (h : opened.Fits) (handling : Handling) (elapsed : Nat) :
    (opened.handle handling elapsed).1.Fits ∧
      opened.Accounts (opened.handle handling elapsed).1 (opened.handle handling elapsed).2 := by
  cases hheld : opened.gone with
  | true =>
      have hsame : opened.handle handling elapsed = (opened, none) := by
        unfold Opened.handle
        rw [if_pos hheld]
      rw [hsame]
      exact ⟨h, .goesOn rfl fun _ => rfl⟩
  | false =>
      cases handling with
      | pull => exact h.pull hheld elapsed
      | drain => exact h.drain hheld elapsed
      | drop => exact h.drop hheld elapsed

end Opened

/-! ## Steps -/

/-- What is set at a place that is there stands between what was before and after it. -/
theorem exists_split_of_getElem? {α : Type} {items : List α} {place : Nat} {old : α}
    (h : items[place]? = some old) (new : α) :
    ∃ before after, items = before ++ old :: after ∧ items.set place new = before ++ new :: after := by
  obtain ⟨hlt, rfl⟩ := List.getElem?_eq_some_iff.mp h
  obtain ⟨before, after, hsplit, -, hset⟩ := @List.exists_of_set α place new items hlt
  exact ⟨before, after, hsplit, hset⟩

theorem forall_mem_set {α : Type} {items : List α} {p : α → Prop} {new : α} (h : ∀ item ∈ items, p item)
    (hnew : p new) (place : Nat) : ∀ item ∈ items.set place new, p item := by
  intro item hm
  rcases List.mem_or_eq_of_mem_set hm with hm | rfl
  · exact h item hm
  · exact hnew

namespace Process

variable {process : Process}

/-- The cursors that were drained, truncated or dropped. -/
def endedCursors (process : Process) : List Opened := process.cursors.filter Opened.ended

/-- **What every run keeps.** Databases are sound, cursors know what their holders have seen, and the counters
of aggregations and returned documents are those of the ended cursors. -/
structure Tallied (process : Process) : Prop where
  sound : ∀ database ∈ process.databases, database.Sound
  fits : ∀ opened ∈ process.cursors, opened.Fits
  aggregations : process.activity.counters.aggregations = process.endedCursors.length
  documentsOut : process.activity.counters.documentsOut =
    (process.endedCursors.map fun opened => opened.returned.length).sum
  slow : process.activity.counters.slowAggregations ≤ process.activity.counters.aggregations

theorem tallied_start (supply : IdSupply) : (start supply).Tallied where
  sound _ hm := nomatch hm
  fits _ hm := nomatch hm
  aggregations := rfl
  documentsOut := rfl
  slow := Nat.le_refl 0

namespace Tallied

theorem addDatabase (h : process.Tallied) (options : DatabaseOptions) :
    (process.perform (.addDatabase options)).Tallied where
  sound := List.forall_mem_append.mpr ⟨h.sound, List.forall_mem_singleton.mpr (Database.sound_empty options)⟩
  fits := h.fits
  aggregations := h.aggregations
  documentsOut := h.documentsOut
  slow := h.slow

theorem call (h : process.Tallied) (place : Nat) (collection : String) (operation : Operation) :
    (process.call place collection operation).Tallied := by
  unfold Process.call
  split
  · exact h
  next database hdatabase =>
  have hsound := h.sound database (List.mem_of_getElem? hdatabase)
  have hcounters := counters_call hsound ⟨collection, operation, process.activity⟩
  refine ⟨forall_mem_set h.sound (hsound.perform _) place, h.fits, ?_, ?_, ?_⟩
  all_goals simp only [hcounters, Counters.countCall]
  · exact h.aggregations
  · exact h.documentsOut
  · exact h.slow

theorem aggregate (h : process.Tallied) (place : Nat) (collection : String) (pipeline : Pipeline) :
    (process.aggregate place collection pipeline).Tallied := by
  unfold Process.aggregate
  split
  · exact h
  next database _ =>
  let opened : Opened := ⟨database.aggregate collection pipeline, [], false⟩
  have hended : endedCursors { process with cursors := process.cursors ++ [opened] } =
      process.endedCursors := by simp [endedCursors, opened, Opened.ended]
  have hfits : opened.Fits := ⟨fun _ => rfl, fun _ => rfl⟩
  refine ⟨h.sound, List.forall_mem_append.mpr ⟨h.fits, List.forall_mem_singleton.mpr hfits⟩, ?_, ?_, h.slow⟩
  · rw [hended]
    exact h.aggregations
  · rw [hended]
    exact h.documentsOut

theorem handle (h : process.Tallied) (place : Nat) (handling : Handling) (elapsed : Nat) :
    (process.handle place handling elapsed).Tallied := by
  unfold Process.handle
  split
  · exact h
  next opened hopened =>
  obtain ⟨hfits, haccounts⟩ := (h.fits opened (List.mem_of_getElem? hopened)).handle handling elapsed
  generalize opened.handle handling elapsed = result at hfits haccounts
  obtain ⟨handled, completion⟩ := result
  obtain ⟨before, after, hsplit, hset⟩ := exists_split_of_getElem? hopened handled
  have hallfit := forall_mem_set h.fits hfits place
  have haggregations := h.aggregations
  have hdocumentsOut := h.documentsOut
  have hslow := h.slow
  simp only [endedCursors, hsplit, List.filter_append, List.filter_cons] at haggregations hdocumentsOut
  -- the cursors before and after the place stay, so only its own part of the sums can change
  cases haccounts with
  | goesOn hended hreturned =>
      refine ⟨h.sound, hallfit, ?_, ?_, hslow⟩
      all_goals simp only [endedCursors, hset, List.filter_append, List.filter_cons, hended]
      · rw [Activity.enter, haggregations]
        split <;> simp
      · rw [Activity.enter, hdocumentsOut]
        split
        · next hopen => simp [hreturned hopen]
        · rfl
  | @ends completion hbefore hafter hcount =>
      simp only [hbefore] at haggregations hdocumentsOut
      have hslower := Bool.toNat_le completion.slow
      refine ⟨h.sound, hallfit, ?_, ?_, ?_⟩
      all_goals
        simp only [endedCursors, hset, List.filter_append, List.filter_cons_of_pos hafter, Activity.enter,
          Counters.countCompletion]
      · rw [haggregations]
        simp
        omega
      · rw [hdocumentsOut, hcount]
        simp
        omega
      · omega

/-- **Every action** keeps databases sound and the counts those of the ended cursors. -/
theorem perform (h : process.Tallied) (action : Action) : (process.perform action).Tallied := by
  cases action with
  | addDatabase options => exact h.addDatabase options
  | call place collection operation => exact h.call place collection operation
  | aggregate place collection pipeline => exact h.aggregate place collection pipeline
  | handle place handling elapsed => exact h.handle place handling elapsed

/-- Every run from a tallied process ends in one. -/
theorem run (h : process.Tallied) (actions : List Action) : (process.run actions).Tallied := by
  induction actions generalizing process with
  | nil => exact h
  | cons action rest ih => exact ih (h.perform action)

end Tallied

/-- **What an action counts** of documents and refusals, beside the ends of aggregations. -/
structure Counts (process : Process) (action : Action) : Prop where
  inserts : (process.perform action).activity.counters.inserts =
    process.activity.counters.inserts + process.added action
  duplicates : (process.perform action).activity.counters.duplicateRejects =
    process.activity.counters.duplicateRejects + (process.refusesDuplicate action).toNat

/-- An action that keeps the documents, returns no error and counts no more than the end of an aggregation. -/
theorem counts_of_same {action : Action} (hstored : (process.perform action).stored = process.stored)
    (herror : process.error? action = none)
    (hactivity : ∃ completion, (process.perform action).activity = process.activity.enter completion) :
    process.Counts action := by
  have hadded : process.added action = 0 := by rw [added, hstored, Nat.sub_self]
  have hrefuses : process.refusesDuplicate action = false := by rw [refusesDuplicate, herror, Option.any_none]
  obtain ⟨completion, hcompletion⟩ := hactivity
  constructor
  · rw [hadded, hcompletion]
    cases completion <;> rfl
  · rw [hrefuses, hcompletion]
    cases completion <;> rfl

/-- The start of an aggregation changes no database and counts nothing. -/
theorem aggregate_keeps (process : Process) (place : Nat) (collection : String) (pipeline : Pipeline) :
    (process.aggregate place collection pipeline).databases = process.databases ∧
      (process.aggregate place collection pipeline).activity = process.activity := by
  unfold aggregate
  split <;> exact ⟨rfl, rfl⟩

/-- The use of a cursor changes no database and counts no more than the end of an aggregation. -/
theorem handle_keeps (process : Process) (place : Nat) (handling : Handling) (elapsed : Nat) :
    (process.handle place handling elapsed).databases = process.databases ∧
      ∃ completion, (process.handle place handling elapsed).activity = process.activity.enter completion := by
  unfold handle
  split
  · exact ⟨rfl, none, rfl⟩
  · exact ⟨rfl, _, rfl⟩

theorem counts_call (h : process.Tallied) (place : Nat) (collection : String) (operation : Operation) :
    process.Counts (.call place collection operation) := by
  cases hdatabase : process.databases[place]? with
  | none =>
      -- there is no such database: nothing happens
      have hsame : process.perform (.call place collection operation) = process := by
        simp only [perform, call, hdatabase]
      refine counts_of_same (by rw [hsame]) ?_ ⟨none, by rw [hsame, Activity.enter]⟩
      simp only [error?, hdatabase, Option.bind_none]
  | some database =>
      let made : Call := ⟨collection, operation, process.activity⟩
      -- the other databases stay, so the process adds what the call adds to its own
      obtain ⟨before, after, hsplit, hset⟩ := exists_split_of_getElem? hdatabase (made.perform database)
      have hperform : process.perform (.call place collection operation) =
          { process with
            databases := before ++ made.perform database :: after
            activity := made.activityAfter database } := by
        simp only [perform, call, hdatabase, ← hset, made]
      have hadded : process.added (.call place collection operation) =
          (made.perform database).stored - database.stored := by
        simp only [added, hperform, stored, hsplit, List.map_append, List.map_cons, List.sum_append,
          List.sum_cons]
        omega
      have herror : process.error? (.call place collection operation) = made.error? database := by
        simp only [error?, hdatabase, Option.bind_some, made]
      have hcounters := counters_call (h.sound database (List.mem_of_getElem? hdatabase)) made
      constructor
      · rw [hperform, hadded]
        exact congrArg Counters.inserts hcounters
      · rw [hperform, refusesDuplicate, herror]
        exact congrArg Counters.duplicateRejects hcounters

/-- **Every action** counts the documents that it adds and the duplicate that it refuses. -/
theorem counts_perform (h : process.Tallied) (action : Action) : process.Counts action := by
  cases action with
  | addDatabase options =>
      refine counts_of_same ?_ rfl ⟨none, rfl⟩
      simp [perform, stored, Database.stored, Database.empty]
  | call place collection operation => exact counts_call h place collection operation
  | aggregate place collection pipeline =>
      obtain ⟨hdatabases, hactivity⟩ := aggregate_keeps process place collection pipeline
      exact counts_of_same (congrArg (fun databases => (databases.map Database.stored).sum) hdatabases) rfl
        ⟨none, hactivity⟩
  | handle place handling elapsed =>
      obtain ⟨hdatabases, hactivity⟩ := handle_keeps process place handling elapsed
      exact counts_of_same (congrArg (fun databases => (databases.map Database.stored).sum) hdatabases) rfl
        hactivity

/-! ## Runs -/

/-- A run counts what its actions count. -/
theorem counts_run (h : process.Tallied) (actions : List Action) :
    (process.run actions).activity.counters.inserts = process.activity.counters.inserts +
        ((process.history actions).map fun entry => entry.1.added entry.2).sum ∧
      (process.run actions).activity.counters.duplicateRejects = process.activity.counters.duplicateRejects +
        (process.history actions).countP fun entry => entry.1.refusesDuplicate entry.2 := by
  induction actions generalizing process with
  | nil => exact ⟨rfl, rfl⟩
  | cons action rest ih =>
      obtain ⟨hinserts, hduplicates⟩ := ih (h.perform action)
      have hcounts := counts_perform h action
      constructor
      · rw [run, hinserts, hcounts.inserts, history, List.map_cons, List.sum_cons, Nat.add_assoc]
      · rw [run, hduplicates, hcounts.duplicates, history, List.countP_cons, Nat.add_assoc,
          Nat.add_comm (Bool.toNat _)]
        cases process.refusesDuplicate action <;> rfl

/-- **Counters match what happened.** Let a process start without databases and perform any actions: calls on
any of its databases, aggregations, and pulls, drains and drops of cursors. The counter of inserts is the number
of documents that were added to collections, those of failed batches included; the counter of duplicates is the
number of errors about an identifier that is taken; the counter of aggregations is the number of cursors that
were drained, truncated or dropped; the counter of returned documents is the number of documents that these
cursors have returned; and no more aggregations were slow than there were. -/
theorem counters_match_history (supply : IdSupply) (actions : List Action) :
    let history := (start supply).history actions
    let process := (start supply).run actions
    let counters := process.activity.counters
    counters.inserts = (history.map fun entry => entry.1.added entry.2).sum ∧
    counters.duplicateRejects = history.countP (fun entry => entry.1.refusesDuplicate entry.2) ∧
    counters.aggregations = process.endedCursors.length ∧
    counters.documentsOut = (process.endedCursors.map fun opened => opened.returned.length).sum ∧
    counters.slowAggregations ≤ counters.aggregations := by
  intro history process counters
  have hstart := tallied_start supply
  have hrun := hstart.run actions
  obtain ⟨hinserts, hduplicates⟩ := counts_run hstart actions
  -- the counters began at zero
  have hzero : (start supply).activity.counters = .zero := rfl
  rw [hzero] at hinserts hduplicates
  refine ⟨?_, ?_, hrun.aggregations, hrun.documentsOut, hrun.slow⟩
  · rw [← Nat.zero_add (List.sum _)]
    exact hinserts
  · rw [← Nat.zero_add (List.countP _ _)]
    exact hduplicates

/-- Two cursors over nothing: one is asked twice and then dropped, the other is dropped late. -/
example (supply : IdSupply) :
    let nothing : Action := .aggregate 0 "c" ⟨[], nofun⟩
    ((start supply).run [.addDatabase ⟨5, none⟩, nothing, .handle 0 .pull 0, .handle 0 .pull 9,
      .handle 0 .drop 9, nothing, .handle 1 .drop 5]).activity.counters = ⟨2, 1, 0, 0, 0⟩ := rfl

end Process
end Docstore

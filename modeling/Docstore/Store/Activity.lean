import Docstore.Json.Printer
import Docstore.ObjectId

/-!
# `Docstore.Store.Activity` — what operations leave behind beside the data

All databases of a process share a supply of identifiers, some counters, and a journal to which every
aggregation adds one entry when it ends. `Activity` holds them.
-/

namespace Docstore

/-! ## Journal -/

/-- The end of an aggregation. -/
structure Completion where
  collection : String
  /-- The number of stages. -/
  stages : Nat
  /-- The number of documents that were returned. -/
  resultCount : Nat
  /-- Were there no more documents? -/
  exhausted : Bool
  /-- Did it take as long as counts as slow? -/
  slow : Bool
  /-- The milliseconds that it took. -/
  duration : Nat
deriving DecidableEq, Repr

namespace Completion

/-- The members of what is written about the end of an aggregation. -/
def members (completion : Completion) : List (String × Json) := [
  ("bench", .string "aggregate"),
  ("collection", .string completion.collection),
  ("stages", .int completion.stages),
  ("result_count", .int completion.resultCount),
  ("exhausted", .bool completion.exhausted),
  ("slow", .bool completion.slow),
  ("duration_ms", .int completion.duration)]

/-- The line about the end of an aggregation, as it is written for developers. -/
def line (completion : Completion) : String := (Json.object completion.members).compact

/-- The entry about the end of an aggregation without the time, which differs from run to run. -/
def entry (completion : Completion) : Json := .object (Entries.erase "duration_ms" completion.members)

end Completion

/-! ## Counters -/

/-- What was counted since the start. -/
structure Counters where
  aggregations : Nat
  slowAggregations : Nat
  documentsOut : Nat
  inserts : Nat
  duplicateRejects : Nat
deriving DecidableEq, Inhabited, Repr

namespace Counters

/-- Nothing counted. -/
def zero : Counters := ⟨0, 0, 0, 0, 0⟩

/-- Counts inserted documents. -/
def countInserts (n : Nat) (counters : Counters) : Counters :=
  { counters with inserts := counters.inserts + n }

/-- Counts a document refused because its identifier is taken. -/
def countDuplicate (counters : Counters) : Counters :=
  { counters with duplicateRejects := counters.duplicateRejects + 1 }

/-- Counts the end of an aggregation. -/
def countCompletion (completion : Completion) (counters : Counters) : Counters :=
  { counters with
    aggregations := counters.aggregations + 1
    slowAggregations := counters.slowAggregations + completion.slow.toNat
    documentsOut := counters.documentsOut + completion.resultCount }

/-- The names and values of the counters. -/
def entries (counters : Counters) : List (String × Nat) := [
  ("aggrelite_aggregations_total", counters.aggregations),
  ("aggrelite_aggregations_slow_total", counters.slowAggregations),
  ("aggrelite_documents_out_total", counters.documentsOut),
  ("aggrelite_inserts_total", counters.inserts),
  ("aggrelite_duplicate_rejects_total", counters.duplicateRejects)]

/-- The counters as lines of a name and a value. -/
def text (counters : Counters) : String :=
  String.join (counters.entries.map fun (name, n) => name ++ " " ++ toString n ++ "\n")

end Counters

/-! ## Activity -/

/-- What the databases of a process share. -/
structure Activity where
  supply : IdSupply
  counters : Counters
  /-- The ends of aggregations, the latest first. -/
  journal : List Completion
deriving Inhabited

namespace Activity

/-- The start of a process. -/
def start (supply : IdSupply) : Activity := ⟨supply, .zero, []⟩

/-- Enters the end of an aggregation, if there is one. -/
def enter (completion : Option Completion) (activity : Activity) : Activity :=
  match completion with
  | none => activity
  | some completion =>
    { activity with
      counters := activity.counters.countCompletion completion
      journal := completion :: activity.journal }

end Activity
end Docstore

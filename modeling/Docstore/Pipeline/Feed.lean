import Docstore.Value.Basic

/-!
# `Docstore.Pipeline.Feed` — documents on demand

A `Feed` is a sequence of documents that shows when it asks its source for the next one: `ask` stands
for one request to the source, after which the feed goes on with what the source answered. What comes
before the next `ask` costs nothing.

## Contents
- **Feeds.** `Feed.ofList` is a source, `Feed.toList` all documents, `Feed.next` the next one and the
  number of requests it takes.
- **Combinators.** `map`, `filter`, `flatMap`, `take`, `skip` pass documents on one by one; `gather`
  waits for all of them.
-/

namespace Docstore

/-- Documents on demand. -/
inductive Feed where
  | stop
  | emit (document : Fields) (rest : Unit → Feed)
  | ask (rest : Unit → Feed)

namespace Feed

instance : Inhabited Feed := ⟨stop⟩

/-! ## Feeds -/

/-- A source: every document takes one request, and so does the end. -/
def ofList : List Fields → Feed
  | [] => ask fun _ => stop
  | document :: rest => ask fun _ => emit document fun _ => ofList rest

/-- Documents that are there already, then another feed. -/
def emitAll (documents : List Fields) (rest : Unit → Feed) : Feed :=
  match documents with
  | [] => rest ()
  | document :: others => emit document fun _ => emitAll others rest

/-- All documents. -/
def toList : Feed → List Fields
  | stop => []
  | emit document rest => document :: toList (rest ())
  | ask rest => toList (rest ())

/-- The number of requests to the end. -/
def requests : Feed → Nat
  | stop => 0
  | emit _ rest => requests (rest ())
  | ask rest => requests (rest ()) + 1

/-- The next document and the feed after it, if there is one, and the number of requests made on top
of `count`. -/
def nextFrom (count : Nat) : Feed → Nat × Option (Fields × Feed)
  | stop => (count, none)
  | emit document rest => (count, some (document, rest ()))
  | ask rest => nextFrom (count + 1) (rest ())

/-- The next document and the feed after it, if there is one, and the number of requests it takes. -/
def next (feed : Feed) : Nat × Option (Fields × Feed) := nextFrom 0 feed

/-- Takes out documents in front of those in `taken`, the newest first. -/
def drainOnto (taken : List Fields) : Feed → List Fields
  | stop => taken
  | emit document rest => drainOnto (document :: taken) (rest ())
  | ask rest => drainOnto taken (rest ())

/-- All documents, found without deep recursion. -/
def drain (feed : Feed) : List Fields := (drainOnto [] feed).reverse

theorem drainOnto_eq (feed : Feed) (taken : List Fields) :
    drainOnto taken feed = feed.toList.reverse ++ taken := by
  induction feed generalizing taken with
  | stop => rfl
  | emit document rest ih => simp [drainOnto, toList, ih]
  | ask rest ih => simp [drainOnto, toList, ih]

theorem drain_eq_toList (feed : Feed) : feed.drain = feed.toList := by
  simp [drain, drainOnto_eq]

/-! ## Combinators -/

/-- Changes each document. -/
def map (f : Fields → Fields) : Feed → Feed
  | stop => stop
  | emit document rest => emit (f document) fun _ => map f (rest ())
  | ask rest => ask fun _ => map f (rest ())

/-- Keeps the documents that pass a test. -/
def filter (test : Fields → Bool) : Feed → Feed
  | stop => stop
  | emit document rest =>
    if test document then emit document fun _ => filter test (rest ()) else filter test (rest ())
  | ask rest => ask fun _ => filter test (rest ())

/-- Makes some documents of each. -/
def flatMap (f : Fields → List Fields) : Feed → Feed
  | stop => stop
  | emit document rest => emitAll (f document) fun _ => flatMap f (rest ())
  | ask rest => ask fun _ => flatMap f (rest ())

/-- The first documents, and no request after them. -/
def take : Nat → Feed → Feed
  | 0, _ => stop
  | _, stop => stop
  | count + 1, emit document rest => emit document fun _ => take count (rest ())
  | count + 1, ask rest => ask fun _ => take (count + 1) (rest ())

/-- All but the first documents. -/
def skip : Nat → Feed → Feed
  | _, stop => stop
  | 0, emit document rest => emit document fun _ => skip 0 (rest ())
  | count + 1, emit _ rest => skip count (rest ())
  | count, ask rest => ask fun _ => skip count (rest ())

/-- Waits for all documents, which follow those in `taken`, newest first, and goes on with what is made
of them. -/
def gatherFrom (f : List Fields → List Fields) (taken : List Fields) : Feed → Feed
  | stop => emitAll (f taken.reverse) fun _ => stop
  | emit document rest => gatherFrom f (document :: taken) (rest ())
  | ask rest => ask fun _ => gatherFrom f taken (rest ())

/-- Waits for all documents and goes on with what is made of them. -/
def gather (f : List Fields → List Fields) (feed : Feed) : Feed := gatherFrom f [] feed

end Feed
end Docstore

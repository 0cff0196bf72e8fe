import Docstore.Count
import Docstore.Pipeline.Feed
import Docstore.Store.Activity
import Docstore.Text.Quoted

/-!
# `Docstore.Store.Cursor` — the documents of a running aggregation

A `Cursor` returns the documents of a feed one by one, up to a bound if there is one. When it returns no
document for the first time, or when it is closed before that, the aggregation ends with one
`Completion`. At the bound the cursor asks for one more document to find out whether there are more; it
never returns that one.
-/

namespace Docstore

/-- A running aggregation. -/
structure Cursor where
  feed : Feed
  collection : String
  stages : Nat
  /-- The number of documents returned so far. -/
  produced : Nat
  /-- The most documents that are returned. -/
  bound : Option Nat
  /-- The milliseconds that count as slow. -/
  slowMillis : Nat
  finished : Bool

namespace Cursor

/-- A cursor that has returned nothing yet. -/
def start (feed : Feed) (collection : String) (stages : Nat) (bound : Option Nat)
    (slowMillis : Nat) : Cursor :=
  ⟨feed, collection, stages, 0, bound, slowMillis, false⟩

/-- Are all documents returned that the bound allows? -/
def isFull (produced : Nat) (bound : Option Nat) : Bool :=
  match bound with
  | some most => most ≤ produced
  | none => false

/-- The end of the aggregation after `elapsed` milliseconds. -/
def completion (cursor : Cursor) (elapsed : Nat) (exhausted : Bool) : Completion :=
  let duration := Count.saturate elapsed
  ⟨cursor.collection, cursor.stages, cursor.produced, exhausted, cursor.slowMillis ≤ duration, duration⟩

/-- The next document, and the end of the aggregation if there is none. -/
def next (cursor : Cursor) (elapsed : Nat) : Option Fields × Cursor × Option Completion :=
  if cursor.finished then (none, cursor, none)
  else
    let full := isFull cursor.produced cursor.bound
    match cursor.feed.next.2 with
    | none =>
      (none, { cursor with feed := .stop, finished := true }, some (cursor.completion elapsed true))
    | some (document, feed) =>
      if full then
        (none, { cursor with feed := feed, finished := true },
          some (cursor.completion elapsed false))
      else (some document, { cursor with feed := feed, produced := cursor.produced + 1 }, none)

/-- The end of an aggregation that is closed before it has ended. -/
def close (cursor : Cursor) (elapsed : Nat) : Option Completion :=
  if cursor.finished then none else some (cursor.completion elapsed false)

/-! ## All documents -/

/-- What is left of a feed: the documents within a bound, the latest first and in front of those in
`taken`, how many have been returned with them, and whether there are no more. -/
def drainFeed (bound : Option Nat) (taken : List Fields) (produced : Nat) :
    Feed → List Fields × Nat × Bool
  | .stop => (taken, produced, true)
  | .emit document rest =>
    if isFull produced bound then (taken, produced, false)
    else drainFeed bound (document :: taken) (produced + 1) (rest ())
  | .ask rest => drainFeed bound taken produced (rest ())

/-- All documents that are left, and the end of the aggregation if it has not ended before. -/
def drain (cursor : Cursor) (elapsed : Nat) : List Fields × Option Completion :=
  if cursor.finished then ([], none)
  else
    let (taken, produced, exhausted) := drainFeed cursor.bound [] cursor.produced cursor.feed
    (taken.reverse, some ({ cursor with produced := produced }.completion elapsed exhausted))

/-- A cursor as it is shown to developers. -/
def debugText (cursor : Cursor) : String :=
  "Cursor \x7b collection: " ++ Text.quoted cursor.collection ++ ", stages: " ++
    toString cursor.stages ++ ", produced: " ++ toString cursor.produced ++ ", finished: " ++
    toString cursor.finished ++ ", .. \x7d"

end Cursor
end Docstore

import Docstore.Pipeline.Basic
import Docstore.Pipeline.Feed
import Docstore.Pipeline.Sorting

/-!
# `Docstore.Pipeline.Execution` — running pipelines

`Stage.onList` is what a stage makes of a list of documents, `Pipeline.onList` what a pipeline does.
`Pipeline.execute` runs a pipeline over a feed: every document is made on demand, and the source is
asked for no more than it takes.
-/

namespace Docstore

/-- The documents of other collections, by the names of the collections. -/
abbrev Snapshots := List (String × List Fields)

/-- The documents of a collection; one that is not there has none. -/
def Snapshots.documents (snapshots : Snapshots) (name : String) : List Fields :=
  (Entries.get? name snapshots).getD []

namespace Stage

/-- What a stage makes of a list of documents. -/
def onList (snapshots : Snapshots) (stage : Stage) (documents : List Fields) : List Fields :=
  match stage with
  | filter condition => documents.filter condition.accepts
  | group spec => spec.run documents
  | lookup spec =>
    let index := ForeignIndex.build spec (snapshots.documents spec.source)
    documents.map (index.attach spec)
  | unwind spec => documents.flatMap spec.expand
  | project projection => documents.map projection.apply
  | sort keys => sortDocuments keys documents
  | limit count => documents.take count.toNat
  | skip count => documents.drop count

/-- What a stage makes of a feed. -/
def onFeed (snapshots : Snapshots) (stage : Stage) (feed : Feed) : Feed :=
  match stage with
  | filter condition => feed.filter condition.accepts
  | group spec => feed.gather spec.run
  | lookup spec =>
    let index := ForeignIndex.build spec (snapshots.documents spec.source)
    feed.map (index.attach spec)
  | unwind spec => feed.flatMap spec.expand
  | project projection => feed.map projection.apply
  | sort keys => feed.gather (sortDocuments keys)
  | limit count => feed.take count.toNat
  | skip count => feed.skip count

end Stage

namespace Pipeline

/-- What a pipeline makes of a list of documents. -/
def onList (snapshots : Snapshots) (pipeline : Pipeline) (documents : List Fields) : List Fields :=
  pipeline.stages.foldl (fun documents stage => stage.onList snapshots documents) documents

/-- What a pipeline makes of a feed. -/
def execute (snapshots : Snapshots) (pipeline : Pipeline) (source : Feed) : Feed :=
  pipeline.stages.foldl (fun feed stage => stage.onFeed snapshots feed) source

end Pipeline
end Docstore

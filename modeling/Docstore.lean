import Docstore.Calendar
import Docstore.Console.Arguments
import Docstore.Console.Command
import Docstore.Console.OutputMode
import Docstore.Console.Program
import Docstore.Console.Usage
import Docstore.Count
import Docstore.Decimal
import Docstore.Double.Basic
import Docstore.Double.Notation
import Docstore.Double.Reading
import Docstore.Double.Rounding
import Docstore.Double.Shortest
import Docstore.Entries
import Docstore.Error
import Docstore.Expression.Basic
import Docstore.Expression.Reader
import Docstore.Files.Basic
import Docstore.Files.Memory
import Docstore.Files.Variables
import Docstore.Instant.Basic
import Docstore.Instant.Reading
import Docstore.Instant.Shift
import Docstore.Json.Basic
import Docstore.Json.Error
import Docstore.Json.Number
import Docstore.Json.Printer
import Docstore.Json.Reader
import Docstore.Logging
import Docstore.Main
import Docstore.ObjectId
import Docstore.Path.Basic
import Docstore.Path.Edit
import Docstore.Path.Resolve
import Docstore.Pipeline.Basic
import Docstore.Pipeline.Execution
import Docstore.Pipeline.Feed
import Docstore.Pipeline.Group
import Docstore.Pipeline.Lookup
import Docstore.Pipeline.Projection
import Docstore.Pipeline.Reader
import Docstore.Pipeline.Sorting
import Docstore.Pipeline.Stage
import Docstore.Pipeline.Unwind
import Docstore.Proofs.Double.Rounding
import Docstore.Proofs.Entries
import Docstore.Proofs.Pipeline.Execution
import Docstore.Proofs.Pipeline.Feed
import Docstore.Proofs.Pipeline.JoinFilter
import Docstore.Proofs.Pipeline.Lookup
import Docstore.Proofs.Pipeline.Reader
import Docstore.Proofs.Value.Facing
import Docstore.Proofs.Value.Key
import Docstore.Proofs.Value.Order
import Docstore.Proofs.Value.Parts
import Docstore.Query.Binding
import Docstore.Query.Filter
import Docstore.Query.Reader
import Docstore.Query.SortKey
import Docstore.Settings.Basic
import Docstore.Settings.Toml
import Docstore.Sorting.Merge
import Docstore.Sorting.Partition
import Docstore.Sorting.Runs
import Docstore.Sorting.Short
import Docstore.Sorting.Stable
import Docstore.Store.Activity
import Docstore.Store.Collection
import Docstore.Store.Cursor
import Docstore.Store.Database
import Docstore.Store.Error
import Docstore.Store.Record
import Docstore.Text.Alphanumeric
import Docstore.Text.Base64
import Docstore.Text.Numeral
import Docstore.Text.Quoted
import Docstore.Text.Unprintable
import Docstore.Value.Basic
import Docstore.Value.Extended
import Docstore.Value.Key
import Docstore.Value.Order
import Docstore.Value.Relaxed
import Docstore.Value.Text
import Docstore.Proofs.Store.Collection
import Docstore.Proofs.Store.Database
import Docstore.Proofs.Store.Batch
import Docstore.Proofs.Store.Run
import Docstore.Proofs.Path.Alike
import Docstore.Proofs.Path.Copy
import Docstore.Proofs.Path.Strict
import Docstore.Proofs.Path.Remove
import Docstore.Proofs.Pipeline.Projection
import Docstore.Proofs.Pipeline.Group
import Docstore.Proofs.Sorting.Order
import Docstore.Proofs.Sorting.Merge
import Docstore.Proofs.Sorting.Short
import Docstore.Proofs.Sorting.Runs
import Docstore.Proofs.Sorting.Stable
import Docstore.Proofs.Pipeline.Sorting
import Docstore.Proofs.Query.Meaning
import Docstore.Proofs.Store.Cursor
import Docstore.Proofs.Pipeline.Demand
import Docstore.Proofs.Value.Reordered
import Docstore.Proofs.Pipeline.Hidden
import Docstore.Proofs.Pipeline.Override
import Docstore.Proofs.Query.Membership
import Docstore.Proofs.Store.Refusal
import Docstore.Proofs.Calendar
import Docstore.Proofs.Instant.Shift
import Docstore.Proofs.Pipeline.Sum
import Docstore.Proofs.Pipeline.Unwind
import Docstore.Proofs.Except
import Docstore.Proofs.Path.Lens
import Docstore.Proofs.Path.Route
import Docstore.Proofs.Expression.Names
import Docstore.Proofs.Pipeline.Reference
import Docstore.Proofs.Store.Stored
import Docstore.Proofs.Store.Counters

import TableQuery.Main
import TableQuery.Source.Memory
import TableQuery.Proofs.Query.Scanning
import TableQuery.Proofs.Request.WellFormed
import TableQuery.Proofs.Number.Spelling
import TableQuery.Proofs.Query.Chunks
import TableQuery.Proofs.Query.Conditions
import TableQuery.Proofs.Query.Selections
import TableQuery.Proofs.Request.Validity
import TableQuery.Proofs.Cells
import TableQuery.Proofs.Engine.Accounting
import TableQuery.Proofs.Join.Driving
import TableQuery.Proofs.Join.FullRecords
import TableQuery.Proofs.Csv.Reading
import TableQuery.Proofs.Engine.Bags
import TableQuery.Proofs.Engine.Shape
import TableQuery.Proofs.Join.Wildcard
import TableQuery.Proofs.Engine.Extensions
import TableQuery.Proofs.Command.Agreement
import TableQuery.Proofs.Engine.Sorting
import TableQuery.Proofs.Engine.Trace
import TableQuery.Proofs.Engine.Reconciliation
import TableQuery.Proofs.Engine.Silence
import TableQuery.Proofs.Json.Compact
import TableQuery.Proofs.Command.Options
import TableQuery.Proofs.Command.Streams
import TableQuery.Proofs.Pattern
import TableQuery.Proofs.Query.Passages
import TableQuery.Proofs.Query.Spellings
import TableQuery.Proofs.Query.Occurrences
import TableQuery.Proofs.Query.Lists
import TableQuery.Proofs.Query.Composition
import TableQuery.Proofs.Query.Partition
import TableQuery.Proofs.Join.Consistency
import TableQuery.Proofs.Join.Exchange
import TableQuery.Proofs.Query.Operators
import TableQuery.Proofs.Query.SelectionTexts
import TableQuery.Proofs.Order.Precedence
import TableQuery.Proofs.Order.Keys
import TableQuery.Proofs.Engine.Narrowing
import TableQuery.Proofs.Engine.Conjunction
import TableQuery.Proofs.Condition.Coherence
import TableQuery.Proofs.Order.Bounds
import TableQuery.Proofs.Condition.WholeNumbers
import TableQuery.Proofs.Csv.Loading
import TableQuery.Proofs.Csv.Column
import TableQuery.Proofs.Query.Calls
import TableQuery.Proofs.Memory.Documents
import TableQuery.Proofs.Log.Canonical
import TableQuery.Proofs.Order.Preorder
import TableQuery.Proofs.Query.Separation
import TableQuery.Proofs.Query.Offsets
import TableQuery.Proofs.Csv.Paths
import TableQuery.Proofs.Join.ReadFields

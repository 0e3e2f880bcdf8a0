import RecordQuery.Cases
import RecordQuery.Exposure
import RecordQuery.Difference
import RecordQuery.RecordList
import RecordQuery.Proofs.Sorting.Outcome
import RecordQuery.Proofs.Sorting.Stable
import RecordQuery.Proofs.Ordering.Rows
import RecordQuery.Proofs.Ordering.PartialOrder
import RecordQuery.Proofs.Traversal
import RecordQuery.Proofs.Ordering.Records
import RecordQuery.Proofs.Ordering.Sorted
import RecordQuery.Proofs.Ordering.Columns
import RecordQuery.Proofs.Registry.History
import RecordQuery.Proofs.Selection.Conditions
import RecordQuery.Proofs.Ordering.Selected
import RecordQuery.Proofs.Sorting.Reverse
import RecordQuery.Proofs.Ordering.Opposite
import RecordQuery.Proofs.Binary.Nearest
import RecordQuery.Proofs.Value.Numbers
import RecordQuery.Proofs.Selection.Partition
import RecordQuery.Proofs.Selection.Conjunction
import RecordQuery.Proofs.Selection.Matches
import RecordQuery.Proofs.Selection.Causes
import RecordQuery.Proofs.Parallel
import RecordQuery.Proofs.Registry.Frame
import RecordQuery.Proofs.Value.Equality
import RecordQuery.Proofs.Value.Population
import RecordQuery.Proofs.Binary.Sum
import RecordQuery.Proofs.Value.Alike
import RecordQuery.Proofs.Operator.Faithful
import RecordQuery.Proofs.Registry.Faithful
import RecordQuery.Proofs.Selection.Alike
import RecordQuery.Proofs.Ordering.Alike
import RecordQuery.Proofs.EqualData
import RecordQuery.Proofs.Selection.ReadAhead
import RecordQuery.Proofs.Value.Replaced
import RecordQuery.Proofs.Selection.Places
import RecordQuery.Proofs.Replacement
import RecordQuery.Proofs.Cases.Alignment
import RecordQuery.Proofs.Operator.Total
import RecordQuery.Proofs.Difference.Search
import RecordQuery.Proofs.Difference.First
import RecordQuery.Proofs.Registry.Rebinding
import RecordQuery.Proofs.Selection.Unregistered
import RecordQuery.Proofs.Lookup.EmptySegments
import RecordQuery.Proofs.Path.Composition
import RecordQuery.Proofs.Lookup.Reach
import RecordQuery.Proofs.Spelling.RoundTrip
import RecordQuery.Proofs.Operator.Extreme
import RecordQuery.Proofs.Operator.Incomparable
import RecordQuery.Proofs.Respelling
import RecordQuery.Proofs.Value.Sharing
import RecordQuery.Proofs.Operator.Caseless
import RecordQuery.Proofs.Exposure.Constants
import RecordQuery.Proofs.Exposure.Merged
import RecordQuery.Proofs.Exposure.Names
import RecordQuery.Proofs.Selection.Length
import RecordQuery.Proofs.Cases.Acceptance
import RecordQuery.Proofs.Exposure.FieldItems
import RecordQuery.Proofs.Exposure.Spread
import RecordQuery.Proofs.Import
import RecordQuery.Proofs.Ordering.Spelled
import RecordQuery.Proofs.Value.Integers
import RecordQuery.Proofs.Exposure.FieldGrammar
import RecordQuery.Proofs.Cases.ArgumentNames

import RecordTables.Memory.Shared
import RecordTables.Metadata.Writer
import RecordTables.Server.Run
import RecordTables.Proofs.Column.Constraint
import RecordTables.Proofs.Column.Flattening
import RecordTables.Proofs.Identifier
import RecordTables.Proofs.Memory.ColumnOrder
import RecordTables.Proofs.Memory.Comparisons
import RecordTables.Proofs.Memory.Consistency
import RecordTables.Proofs.Memory.Deletion
import RecordTables.Proofs.Memory.History
import RecordTables.Proofs.Memory.Insertion
import RecordTables.Proofs.Memory.Paging
import RecordTables.Proofs.Memory.Refusal
import RecordTables.Proofs.Memory.RoundTrip
import RecordTables.Proofs.Memory.Selection
import RecordTables.Proofs.Memory.Sharing
import RecordTables.Proofs.Memory.SortedSelection
import RecordTables.Proofs.Memory.StableSort
import RecordTables.Proofs.Metadata.Codecs
import RecordTables.Proofs.Metadata.Stored
import RecordTables.Proofs.Record
import RecordTables.Proofs.RoundTrip
import RecordTables.Proofs.ScanFailures
import RecordTables.Proofs.Server.Acceptance
import RecordTables.Proofs.Server.Additive
import RecordTables.Proofs.Server.Attempts
import RecordTables.Proofs.Server.ColumnNames
import RecordTables.Proofs.Server.FieldColumns
import RecordTables.Proofs.Server.FirstFault
import RecordTables.Proofs.Server.Growth
import RecordTables.Proofs.Server.LockKeys
import RecordTables.Proofs.Server.RowReading
import RecordTables.Proofs.Statement.Composition
import RecordTables.Proofs.Statement.Condition
import RecordTables.Proofs.Statement.Insertion
import RecordTables.Proofs.Statement.SelectReader
import RecordTables.Proofs.Statement.SelectShape
import RecordTables.Proofs.Storing
import RecordTables.Proofs.Value.Field
import RecordTables.Proofs.Value.MixedOrder
import RecordTables.Proofs.Value.Order

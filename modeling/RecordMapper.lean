import RecordMapper.Proofs.Backend.Additions
import RecordMapper.Proofs.Backend.Changes
import RecordMapper.Proofs.Backend.Cursors
import RecordMapper.Proofs.Backend.Lookups
import RecordMapper.Proofs.Backend.Sessions
import RecordMapper.Proofs.Backend.Transactions
import RecordMapper.Proofs.Backend.Writes
import RecordMapper.Proofs.Calendar.Layouts
import RecordMapper.Proofs.Condition.Canonical
import RecordMapper.Proofs.Condition.Grammar
import RecordMapper.Proofs.Condition.Keywords
import RecordMapper.Proofs.Condition.Meaning
import RecordMapper.Proofs.Condition.Truth
import RecordMapper.Proofs.Condition.Written
import RecordMapper.Proofs.Ordered
import RecordMapper.Proofs.Outcome
import RecordMapper.Proofs.Query.Aliasing
import RecordMapper.Proofs.Query.Built
import RecordMapper.Proofs.Query.Joined
import RecordMapper.Proofs.Query.Scope
import RecordMapper.Proofs.Query.Selected
import RecordMapper.Proofs.Record.Assembly
import RecordMapper.Proofs.Record.Assignment
import RecordMapper.Proofs.Record.Attached
import RecordMapper.Proofs.Record.Committed
import RecordMapper.Proofs.Record.Created
import RecordMapper.Proofs.Record.Faithful
import RecordMapper.Proofs.Record.Fetched
import RecordMapper.Proofs.Record.Given
import RecordMapper.Proofs.Record.InPlace
import RecordMapper.Proofs.Record.InStep
import RecordMapper.Proofs.Record.Labels
import RecordMapper.Proofs.Record.Reading
import RecordMapper.Proofs.Record.Referring
import RecordMapper.Proofs.Record.Replayed
import RecordMapper.Proofs.Record.RowUpdate
import RecordMapper.Proofs.Record.Saved
import RecordMapper.Proofs.Record.Saving
import RecordMapper.Proofs.Record.Sought
import RecordMapper.Proofs.Record.Tracking
import RecordMapper.Proofs.Sample
import RecordMapper.Proofs.Schema.Addressed
import RecordMapper.Proofs.Schema.Declared
import RecordMapper.Proofs.Schema.Forms
import RecordMapper.Proofs.Schema.Invariant
import RecordMapper.Proofs.Schema.Linked
import RecordMapper.Proofs.Schema.Registered
import RecordMapper.Proofs.Schema.Registering
import RecordMapper.Proofs.Schema.Tended
import RecordMapper.Proofs.Stateful
import RecordMapper.Proofs.Statement.Around
import RecordMapper.Proofs.Statement.Assigned
import RecordMapper.Proofs.Statement.Counted
import RecordMapper.Proofs.Statement.Draft
import RecordMapper.Proofs.Statement.Inserted
import RecordMapper.Proofs.Statement.Legible
import RecordMapper.Proofs.Statement.Marks
import RecordMapper.Proofs.Statement.Nested
import RecordMapper.Proofs.Statement.Numbering
import RecordMapper.Proofs.Statement.Operands
import RecordMapper.Proofs.Statement.Paged
import RecordMapper.Proofs.Statement.Pieces
import RecordMapper.Proofs.Statement.Placeholders
import RecordMapper.Proofs.Statement.Predicate
import RecordMapper.Proofs.Statement.Rejoined
import RecordMapper.Proofs.Statement.Rendering
import RecordMapper.Proofs.Statement.Scoped
import RecordMapper.Proofs.Statement.Shape
import RecordMapper.Proofs.Statement.Shifted
import RecordMapper.Proofs.Statement.Updated
import RecordMapper.Proofs.Statement.Worded
import RecordMapper.Proofs.Text.Patterns
import RecordMapper.Proofs.Text.Separated
import RecordMapper.Proofs.Value.DateOfMoment
import RecordMapper.Proofs.Value.IntegerText
import RecordMapper.Proofs.Value.ReadBack
import RecordMapper.Proofs.Value.WholeFloats
import RecordMapper.Record.Store
import RecordMapper.Session
import RecordMapper.Sqlite.Location

import FlumeViewSql.Index.Represents
import FlumeViewSql.Source.SqlViews
import FlumeViewSql.Index.Simulation
import FlumeViewSql.Index.Views
import FlumeViewSql.Execution.Calls
import FlumeViewSql.Index.History
import FlumeViewSql.Contract.Edges
import FlumeViewSql.Contract.Messages
import FlumeViewSql.Index.Growth
import FlumeViewSql.Contract.Atomicity
import FlumeViewSql.Execution.Batches
import FlumeViewSql.Source.Process
import FlumeViewSql.Index.Resuming
import FlumeViewSql.Contract.Indexing
import FlumeViewSql.Source.Modifiers
import FlumeViewSql.Contract.Backlinks
import FlumeViewSql.Source.Setup
import FlumeViewSql.Contract.Opening
import FlumeViewSql.Contract.Lookups
import FlumeViewSql.Contract.Abouts
import FlumeViewSql.Contract.Filters
import FlumeViewSql.Contract.Decryption
import FlumeViewSql.Contract.Interning
import FlumeViewSql.Execution.Ledger
import FlumeViewSql.Index.Identity
import FlumeViewSql.Contract.Identity
import FlumeViewSql.Execution.Simulation
import FlumeViewSql.Index.Machine
import FlumeViewSql.Execution.Grouping
import FlumeViewSql.Relational.Numbering
import FlumeViewSql.Index.Regular
import FlumeViewSql.Contract.Refinement
import FlumeViewSql.Contract.Integrity
import FlumeViewSql.Contract.Persistence
import FlumeViewSql.Contract.Batching
import FlumeViewSql.Source.Session
import FlumeViewSql.Contract.Sessions
import FlumeViewSql.Contract.Progress
import FlumeViewSql.Contract.Queries
import FlumeViewSql.Contract.Replay

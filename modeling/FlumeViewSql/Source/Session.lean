import FlumeViewSql.Source.Process
import FlumeViewSql.Source.Setup

/-! `SsbQuery`: a view that is opened on a database file, fed from a log file, and closed again.

A session ends when the view is closed, when a call panics or when the process dies. What the
next one finds is the file, and a log that may have grown.
-/

set_option autoImplicit false

namespace FlumeViewSql

open Execution Relational

theorem onTables_run {α : Type} (statement : Sql Db α) (connection : Connection DbFile) :
    (onTables statement).run connection =
      ⟨(statement.run ⟨connection.db.tables, connection.lastInsertRowid⟩).outcome,
        ⟨{ connection.db with
            tables := (statement.run ⟨connection.db.tables, connection.lastInsertRowid⟩).state.db },
          (statement.run ⟨connection.db.tables, connection.lastInsertRowid⟩).state.lastInsertRowid⟩⟩ := rfl

namespace SsbQuery

variable {SecretKey : Type} (crates : Crates SecretKey) (secretKeys : List SecretKey) (iter : OffsetLogIter)
  (log : Log) (numItems : Int64)

/-- `SsbQuery::new`; the log file is not opened before `process` is called. -/
def new (answers : OpenAnswers) (pubKey : String) : Sql DbFile Unit := FlumeViewSql.new answers pubKey

def getLatest (file : DbFile) : Sequence := FlumeViewSql.getLatest file.tables

def process : Sql DbFile Unit := onTables (FlumeViewSql.process crates secretKeys iter log numItems)

/-- A call that is cut off after it committed so many batches. -/
def processUntil (batches : Nat) : Sql DbFile Unit :=
  onTables (FlumeViewSql.processUntil crates secretKeys iter log numItems batches)

end SsbQuery

structure Session where
  log : Log
  connection : Connection DbFile
  /-- There is a `SqlView` on the file. -/
  isOpen : Bool

def Session.file (session : Session) : DbFile := session.connection.db

section
variable {SecretKey : Type} (crates : Crates SecretKey) (secretKeys : List SecretKey) (iter : OffsetLogIter)

/-- What can happen next, where `allowed` says how a call of `new` may be disturbed. `SsbQuery::new` is given
the secret keys anew; here every session has the same ones. -/
inductive SessionStep (allowed : DbFile → OpenAnswers → Prop) : Session → Session → Prop
  | grown {log log' : Log} {connection : Connection DbFile} {isOpen : Bool} : log.entries <+: log'.entries →
      (∀ entry ∈ log'.entries, entry.1.toNat < 2 ^ 63) →
      SessionStep allowed ⟨log, connection, isOpen⟩ ⟨log', connection, isOpen⟩
  -- Each session may name another public key.
  | opened {log : Log} {connection : Connection DbFile} (answers : OpenAnswers) (pubKey : String) :
      allowed connection.db answers → SessionStep allowed ⟨log, connection, false⟩
        ⟨log, ((SsbQuery.new answers pubKey).run connection).state,
          ((SsbQuery.new answers pubKey).run connection).outcome.isOk⟩
  | processed {log : Log} {connection : Connection DbFile} (numItems : Int64) :
      SessionStep allowed ⟨log, connection, true⟩
        ⟨log, ((SsbQuery.process crates secretKeys iter log numItems).run connection).state,
          ((SsbQuery.process crates secretKeys iter log numItems).run connection).outcome.isOk⟩
  | cutOff {log : Log} {connection : Connection DbFile} (numItems : Int64) (batches : Nat) :
      SessionStep allowed ⟨log, connection, true⟩
        ⟨log, ((SsbQuery.processUntil crates secretKeys iter log numItems batches).run connection).state, false⟩
  | closed {log : Log} {connection : Connection DbFile} {isOpen : Bool} :
      SessionStep allowed ⟨log, connection, isOpen⟩ ⟨log, connection, false⟩

end

end FlumeViewSql

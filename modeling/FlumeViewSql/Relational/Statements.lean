import FlumeViewSql.Execution.Action
import FlumeViewSql.Relational.Dictionary

/-! SQL statements on the tables of a database, over one connection.

A statement either runs, or is refused with an error and changes nothing. Outside a
transaction each statement commits by itself, so what ran before a stop stays.
The rowid of the last insert belongs to the connection, not to a table, and a
rollback does not put it back.
-/

set_option autoImplicit false

namespace Relational

open Execution

inductive SqlError where
  | constraintViolation
  | queryReturnedNoRows
  | failure
  deriving DecidableEq, Repr

structure Connection (σ : Type) where
  db : σ
  lastInsertRowid : Int
  deriving DecidableEq

abbrev Sql (σ α : Type) := Action SqlError (Connection σ) α

/-- Where a table stands in a database of type `σ`. -/
structure TableIn (σ ρ κ : Type) (unique : ρ → Option κ) where
  read : σ → Table ρ κ unique
  write : σ → Table ρ κ unique → σ
  read_write : ∀ db table, read (write db table) = table
  write_read : ∀ db, write db (read db) = db

/-- Where a dictionary stands, with the row that inserting a key alone writes. -/
structure DictionaryIn (σ ρ κ : Type) (text : ρ → κ) extends TableIn σ ρ κ (fun row => some (text row)) where
  blank : κ → ρ
  names : ∀ key, text (blank key) = key

/-- What becomes of a statement, apart from the constraints on it. When the process crashes, it
does so before the statement commits. -/
inductive Answer where
  | runs
  | fails (why : SqlError)
  | crashes
  deriving DecidableEq, Repr

namespace Sql

variable {σ ρ κ : Type} {unique : ρ → Option κ}

def attempt {α : Type} (answer : Answer) (statement : Sql σ α) : Sql σ α :=
  match answer with
  | .runs => statement
  | .fails why => Action.stop (.err why)
  | .crashes => Action.stop .panic

/-- A table change that is committed, or refused by a constraint. -/
def change (table : TableIn σ ρ κ unique) (changed : Table ρ κ unique → Option (Int × Table ρ κ unique)) :
    Sql σ Unit := fun connection =>
  match changed (table.read connection.db) with
  | some (rowid, after) => ⟨.ok (), ⟨table.write connection.db after, rowid⟩⟩
  | none => ⟨.error (.err .constraintViolation), connection⟩

section
variable [DecidableEq κ]

/-- `INSERT INTO table (…) VALUES (…)`. -/
def insertInto (table : TableIn σ ρ κ unique) (row : ρ) : Sql σ Unit := change table (·.insert row)

/-- `INSERT INTO table (…)` where one of the columns is the primary key. -/
def insertAt (table : TableIn σ ρ κ unique) (rowid : Int) (row : ρ) : Sql σ Unit :=
  change table fun rows => (rows.insertAt rowid row).map (rowid, ·)

/-- `REPLACE INTO table (…) VALUES (…)`. -/
def replaceInto (table : TableIn σ ρ κ unique) (row : ρ) : Sql σ Unit := change table (·.replace row)

/-- `SELECT id FROM table WHERE text = key`, for one row. -/
def selectId {text : ρ → κ} (table : DictionaryIn σ ρ κ text) (key : κ) : Sql σ Int := fun connection =>
  match Dictionary.find (table.read connection.db) key with
  | some rowid => ⟨.ok rowid, connection⟩
  | none => ⟨.error (.err .queryReturnedNoRows), connection⟩

end

def lastInsertRowid : Sql σ Int := fun connection => ⟨.ok connection.lastInsertRowid, connection⟩

/-- A transaction that is rolled back when it is dropped without a commit. -/
def transaction {α : Type} (body : Sql σ α) : Sql σ α :=
  Action.transaction (fun before after => ⟨before.db, after.lastInsertRowid⟩) body

/-! ### One rule for each statement -/

theorem attempt_ends {α : Type} {answer : Answer} {statement : Sql σ α} {connection : Connection σ}
    {post : α → Connection σ → Prop} {stopped : Connection σ → Prop}
    (ran : answer = .runs → Action.Ends statement connection post stopped)
    (disturbed : answer ≠ .runs → stopped connection) :
    Action.Ends (attempt answer statement) connection post stopped := by
  cases answer with
  | runs => exact ran rfl
  | fails why => exact Action.Ends.stop (disturbed (by simp))
  | crashes => exact Action.Ends.stop (disturbed (by simp))

theorem attempt_within {α : Type} {order : Connection σ → Connection σ → Prop} [IsPreorder (Connection σ) order]
    (answer : Answer) {statement : Sql σ α} (within : Action.Within order statement) :
    Action.Within order (attempt answer statement) := by
  cases answer with
  | runs => exact within
  | fails why => exact .stop (.err why)
  | crashes => exact .stop .panic

section
variable {table : TableIn σ ρ κ unique} {row : ρ} {connection : Connection σ}

theorem run_change_some {changed : Table ρ κ unique → Option (Int × Table ρ κ unique)} {rowid : Int}
    {after : Table ρ κ unique} (done : changed (table.read connection.db) = some (rowid, after)) :
    (change table changed).run connection = ⟨.ok (), ⟨table.write connection.db after, rowid⟩⟩ := by
  simp only [Action.run, change, done]

theorem run_change_none {changed : Table ρ κ unique → Option (Int × Table ρ κ unique)}
    (refused : changed (table.read connection.db) = none) :
    (change table changed).run connection = ⟨.error (.err .constraintViolation), connection⟩ := by
  simp only [Action.run, change, refused]

/-- Any row may be written where the order allows writing the table at all. -/
theorem change_within {order : Connection σ → Connection σ → Prop} [IsPreorder (Connection σ) order]
    (written : ∀ connection after rowid, order connection ⟨table.write connection.db after, rowid⟩)
    (changed : Table ρ κ unique → Option (Int × Table ρ κ unique)) : Action.Within order (change table changed) := by
  intro connection
  cases done : changed (table.read connection.db) with
  | none =>
    rw [run_change_none done]
    exact refl_of order connection
  | some result =>
    rw [run_change_some done]
    exact written connection result.2 result.1

variable [DecidableEq κ]

theorem insertInto_free (table : TableIn σ ρ κ unique) (row : ρ) (connection : Connection σ)
    (free : unique row = none) :
    ∃ rowid after, (insertInto table row).run connection = ⟨.ok (), ⟨table.write connection.db after, rowid⟩⟩ ∧
      after.rows = (table.read connection.db).rows ++ [(rowid, row)] := by
  obtain ⟨after, done, rows⟩ := (table.read connection.db).insert_of_free free
  exact ⟨_, after, run_change_some done, rows⟩

theorem replaceInto_free (free : unique row = none) :
    (replaceInto table row).run connection = (insertInto table row).run connection := by
  have same := (table.read connection.db).replace_of_free free
  simp only [Action.run, replaceInto, insertInto, change, same]

theorem insertAt_admitted (table : TableIn σ ρ κ unique) (row : ρ) (connection : Connection σ) {rowid : Int}
    (admitted : (table.read connection.db).Admits rowid row) :
    ∃ after, (insertAt table rowid row).run connection = ⟨.ok (), ⟨table.write connection.db after, rowid⟩⟩ ∧
      after.rows = (table.read connection.db).rows.orderedInsert (OrderedBy Prod.fst) (rowid, row) := by
  refine ⟨(table.read connection.db).add rowid row admitted, run_change_some ?_, rfl⟩
  simp [Table.insertAt, admitted]

theorem insertAt_refused (table : TableIn σ ρ κ unique) (row : ρ) (connection : Connection σ) {rowid : Int}
    (refused : ¬ (table.read connection.db).Admits rowid row) :
    (insertAt table rowid row).run connection = ⟨.error (.err .constraintViolation), connection⟩ :=
  run_change_none (by simp [Table.insertAt, refused])

variable {text : ρ → κ} {dictionary : DictionaryIn σ ρ κ text} {key : κ}

theorem selectId_within {order : Connection σ → Connection σ → Prop} [IsPreorder (Connection σ) order]
    (dictionary : DictionaryIn σ ρ κ text) (key : κ) : Action.Within order (selectId dictionary key) := by
  intro connection
  simp only [Action.run, selectId]
  split <;> exact refl_of order connection

theorem selectId_found {rowid : Int} (maps : Dictionary.Maps (dictionary.read connection.db) rowid key) :
    (selectId dictionary key).run connection = ⟨.ok rowid, connection⟩ := by
  simp only [Action.run, selectId, Dictionary.find_eq_some.mpr maps]

theorem selectId_absent (absent : ∀ rowid, ¬ Dictionary.Maps (dictionary.read connection.db) rowid key) :
    (selectId dictionary key).run connection = ⟨.error (.err .queryReturnedNoRows), connection⟩ := by
  simp only [Action.run, selectId, Dictionary.find_eq_none.mpr absent]

theorem insertInto_present {rowid : Int} (maps : Dictionary.Maps (dictionary.read connection.db) rowid key) :
    (insertInto dictionary.toTableIn (dictionary.blank key)).run connection =
      ⟨.error (.err .constraintViolation), connection⟩ := by
  have refused : ¬ (dictionary.read connection.db).Admits (dictionary.read connection.db).newRowid
      (dictionary.blank key) := by
    rw [Dictionary.admits_iff_absent, dictionary.names]
    exact fun absent => absent rowid maps
  exact run_change_none (by simp [Table.insert, Table.insertAt, refused])

theorem insertInto_absent (absent : ∀ rowid, ¬ Dictionary.Maps (dictionary.read connection.db) rowid key) :
    ∃ after, (insertInto dictionary.toTableIn (dictionary.blank key)).run connection =
        ⟨.ok (), ⟨dictionary.write connection.db after, (dictionary.read connection.db).newRowid⟩⟩ ∧
      after.rows = (dictionary.read connection.db).rows ++
        [((dictionary.read connection.db).newRowid, dictionary.blank key)] := by
  have admitted : (dictionary.read connection.db).Admits (dictionary.read connection.db).newRowid
      (dictionary.blank key) := Dictionary.admits_iff_absent.mpr (by rwa [dictionary.names])
  refine ⟨(dictionary.read connection.db).add _ _ admitted, run_change_some ?_, Table.orderedInsert_newRowid _ _⟩
  simp [Table.insert, Table.insertAt, admitted]

end

/-! ### Statements read only the database -/

/-- Connections to equal databases; the last rowid may differ. -/
def SameDb (first second : Connection σ) : Prop := first.db = second.db

theorem change_respects (table : TableIn σ ρ κ unique)
    (changed : Table ρ κ unique → Option (Int × Table ρ κ unique)) :
    Action.Respects SameDb (change table changed) := by
  intro first second same
  cases done : changed (table.read first.db) with
  | none =>
    rw [run_change_none done, run_change_none (same ▸ done)]
    exact ⟨rfl, same⟩
  | some result =>
    obtain ⟨rowid, after⟩ := result
    have other : changed (table.read second.db) = some (rowid, after) := same ▸ done
    rw [run_change_some done, run_change_some other]
    exact ⟨rfl, congrArg (table.write · after) same⟩

theorem transaction_respects {α : Type} {body : Sql σ α} (respects : Action.Respects SameDb body) :
    Action.Respects SameDb (transaction body) := by
  apply Action.Respects.transaction
  · exact fun _ _ _ _ same => same
  · exact respects

end Sql

end Relational

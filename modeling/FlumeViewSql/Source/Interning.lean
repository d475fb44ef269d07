import FlumeViewSql.Source.Schema

/-! `find_or_create_key`, `find_or_create_author` and `find_or_create_blob`. -/

set_option autoImplicit false

namespace FlumeViewSql

open Execution Relational

/-- What SQLite does with the four statements of a `find_or_create` function. -/
structure Answers where
  prepareSelect : Answer
  select : Answer
  prepareInsert : Answer
  insert : Answer

/-- No statement fails except by a constraint. -/
def Answers.allRun : Answers := ⟨.runs, .runs, .runs, .runs⟩

/-- The common body. The result of the `INSERT` is wrapped by `map` and dropped by the next
one, and every error of the `SELECT` counts as "not there". -/
def findOrCreate {ρ : Type} {text : ρ → String} (table : DictionaryIn Db ρ String text) (answers : Answers)
    (key : String) : Sql Db Int := do
  Sql.attempt answers.prepareSelect (pure ())
  -- `or_else` runs for every error, not only for a query without rows.
  (Sql.attempt answers.select (Sql.selectId table key)).orElse fun _ => do
    Sql.attempt answers.prepareInsert (pure ())
    -- The first `map` wraps the result of `execute`, the second one drops it.
    (Sql.attempt answers.insert (Sql.insertInto table.toTableIn (table.blank key))).dropResult
    Sql.lastInsertRowid

def findOrCreateKey (key : String) : Sql Db Int := findOrCreate keysTable .allRun key

def findOrCreateAuthor (author : String) : Sql Db Int := findOrCreate authorsTable .allRun author

def findOrCreateBlob (blob : String) : Sql Db Int := findOrCreate blobsTable .allRun blob

section
variable {ρ : Type} {text : ρ → String} {table : DictionaryIn Db ρ String text} {answers : Answers}
  {connection : Connection Db} {key : String} (prepared : answers.prepareSelect = .runs)
include prepared

/-- A row that the `SELECT` reads is the answer. -/
theorem findOrCreate_found {id : Int} (selected : answers.select = .runs)
    (maps : Dictionary.Maps (table.read connection.db) id key) :
    (findOrCreate table answers key).run connection = ⟨.ok id, connection⟩ := by
  have found := Sql.selectId_found maps
  simp only [Action.run] at found
  simp only [Action.run, findOrCreate, prepared, selected, Sql.attempt, Action.bind_eq, Action.bind, Action.pure_eq,
    Action.pure, Action.orElse, found]

/-- Whatever kept the `SELECT` from reading a row, the `INSERT` is tried. -/
theorem findOrCreate_missed (answered : answers.select ≠ .crashes)
    (missed : answers.select = .runs → ∀ id, ¬ Dictionary.Maps (table.read connection.db) id key) :
    (findOrCreate table answers key).run connection = Action.run (do
      Sql.attempt answers.prepareInsert (pure ())
      (Sql.attempt answers.insert (Sql.insertInto table.toTableIn (table.blank key))).dropResult
      Sql.lastInsertRowid : Sql Db Int) connection := by
  cases selected : answers.select with
  | crashes => exact absurd selected answered
  | fails why =>
    simp only [Action.run, findOrCreate, prepared, selected, Sql.attempt, Action.bind_eq, Action.bind, Action.pure_eq,
      Action.pure, Action.orElse, Action.stop]
  | runs =>
    have none := Sql.selectId_absent (missed selected)
    simp only [Action.run] at none
    simp only [Action.run, findOrCreate, prepared, selected, Sql.attempt, Action.bind_eq, Action.bind, Action.pure_eq,
      Action.pure, Action.orElse, none]

/-- A key that is not there gets the next rowid, when the `INSERT` runs. -/
theorem findOrCreate_inserts (answered : answers.select ≠ .crashes) (preparedInsert : answers.prepareInsert = .runs)
    (inserts : answers.insert = .runs) (absent : ∀ id, ¬ Dictionary.Maps (table.read connection.db) id key) :
    ∃ after, (findOrCreate table answers key).run connection =
        ⟨.ok (table.read connection.db).newRowid,
          ⟨table.write connection.db after, (table.read connection.db).newRowid⟩⟩ ∧
      after.rows = (table.read connection.db).rows ++ [((table.read connection.db).newRowid, table.blank key)] := by
  obtain ⟨after, inserted, rows⟩ := Sql.insertInto_absent absent
  simp only [Action.run] at inserted
  refine ⟨after, ?_, rows⟩
  rw [findOrCreate_missed prepared answered fun _ => absent]
  simp only [Action.run, preparedInsert, inserts, Sql.attempt, Action.bind_eq, Action.bind, Action.pure_eq,
    Action.pure, Action.dropResult, inserted, Sql.lastInsertRowid]

end

section
variable {ρ : Type} {text : ρ → String} (table : DictionaryIn Db ρ String text) (key : String)

/-- When no statement fails, `find_or_create` interns its key. -/
theorem findOrCreate_interns (connection : Connection Db) :
    ∃ rowid after last, (findOrCreate table .allRun key).run connection =
        ⟨.ok rowid, ⟨table.write connection.db after, last⟩⟩ ∧
      Dictionary.Interns table.blank (table.read connection.db) key rowid after := by
  by_cases present : ∃ rowid, Dictionary.Maps (table.read connection.db) rowid key
  · obtain ⟨rowid, maps⟩ := present
    refine ⟨rowid, table.read connection.db, connection.lastInsertRowid, ?_, .found maps⟩
    rw [findOrCreate_found rfl rfl maps, table.write_read]
  · have absent := not_exists.mp present
    have answered : Answers.allRun.select ≠ .crashes := by decide
    obtain ⟨after, ended, rows⟩ := findOrCreate_inserts rfl answered rfl rfl absent
    exact ⟨_, after, _, ended, .created absent rows⟩

theorem findOrCreate_respects : Action.Respects Sql.SameDb (findOrCreate table .allRun key) := by
  intro first second same
  obtain ⟨rowid, after, last, ended, interns⟩ := findOrCreate_interns table key first
  obtain ⟨rowid', after', last', ended', interns'⟩ := findOrCreate_interns table key second
  rw [ended, ended']
  rw [← (same : first.db = second.db)] at interns' ⊢
  obtain ⟨rfl, rfl⟩ := interns.unique interns'
  exact ⟨rfl, rfl⟩

end

end FlumeViewSql

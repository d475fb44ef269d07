import FlumeViewSql.Source.Interning

/-! What the three `find_or_create` functions return, whatever becomes of their statements. -/

set_option autoImplicit false

namespace FlumeViewSql

open Execution Relational

/-- Every statement gives a result or an error. -/
structure Answers.Answered (answers : Answers) : Prop where
  prepareSelect : answers.prepareSelect ≠ .crashes
  select : answers.select ≠ .crashes
  prepareInsert : answers.prepareInsert ≠ .crashes
  insert : answers.insert ≠ .crashes

section
variable {ρ : Type} {text : ρ → String} (table : DictionaryIn Db ρ String text) (answers : Answers)
  (connection : Connection Db) (key : String)

def Reads : Prop :=
  answers.prepareSelect = .runs ∧ answers.select = .runs ∧
    ∃ id, Dictionary.Maps (table.read connection.db) id key

/-- An `INSERT` of the key would succeed. -/
def Writes : Prop :=
  answers.prepareInsert = .runs ∧ answers.insert = .runs ∧
    ∀ id, ¬ Dictionary.Maps (table.read connection.db) id key

def ExecutesInsert : Prop :=
  answers.prepareSelect = .runs ∧ ¬ Reads table answers connection key ∧ answers.prepareInsert = .runs

/-- A success names a row of the key, and there is an error without effect where there is no such row. -/
structure InternsSafely : Prop where
  named : ∀ id, ((findOrCreate table answers key).run connection).outcome = .ok id →
    Dictionary.Maps (table.read ((findOrCreate table answers key).run connection).state.db) id key
  refused : ¬ Reads table answers connection key → ¬ Writes table answers connection key →
    (∃ why, ((findOrCreate table answers key).run connection).outcome = .error (.err why)) ∧
      ((findOrCreate table answers key).run connection).state.db = connection.db

variable {table answers connection key}

theorem findOrCreate_unprepared {why : SqlError} (failed : answers.prepareSelect = .fails why) :
    (findOrCreate table answers key).run connection = ⟨.error (.err why), connection⟩ := by
  simp only [Action.run, findOrCreate, failed, Sql.attempt, Action.bind_eq, Action.bind, Action.stop]

theorem findOrCreate_reads (reads : Reads table answers connection key) :
    ∃ id, (findOrCreate table answers key).run connection = ⟨.ok id, connection⟩ ∧
      Dictionary.Maps (table.read connection.db) id key := by
  obtain ⟨prepared, selected, id, maps⟩ := reads
  exact ⟨id, findOrCreate_found prepared selected maps, maps⟩

section
variable (prepared : answers.prepareSelect = .runs) (answered : answers.Answered)
  (missed : ¬ Reads table answers connection key)
include prepared answered missed

theorem findOrCreate_tries : (findOrCreate table answers key).run connection = Action.run (do
      Sql.attempt answers.prepareInsert (pure ())
      (Sql.attempt answers.insert (Sql.insertInto table.toTableIn (table.blank key))).dropResult
      Sql.lastInsertRowid : Sql Db Int) connection :=
  findOrCreate_missed prepared answered.select fun selected id maps => missed ⟨prepared, selected, id, maps⟩

theorem findOrCreate_insertUnprepared {why : SqlError} (failed : answers.prepareInsert = .fails why) :
    (findOrCreate table answers key).run connection = ⟨.error (.err why), connection⟩ := by
  rw [findOrCreate_tries prepared answered missed]
  simp only [Action.run, failed, Sql.attempt, Action.bind_eq, Action.bind, Action.stop]

variable (preparedInsert : answers.prepareInsert = .runs)
include preparedInsert

omit missed in
theorem findOrCreate_writes (writes : Writes table answers connection key) :
    ∃ id after last, (findOrCreate table answers key).run connection =
        ⟨.ok id, ⟨table.write connection.db after, last⟩⟩ ∧ Dictionary.Maps after id key := by
  obtain ⟨-, inserts, absent⟩ := writes
  obtain ⟨after, ended, rows⟩ := findOrCreate_inserts prepared answered.select preparedInsert inserts absent
  exact ⟨_, after, _, ended, table.blank key, by simp [rows], table.names key⟩

/-- The error of the `INSERT` is dropped, and the rowid of an earlier insert returned. -/
theorem findOrCreate_drops (failed : ¬ Writes table answers connection key) :
    (findOrCreate table answers key).run connection = ⟨.ok connection.lastInsertRowid, connection⟩ := by
  rw [findOrCreate_tries prepared answered missed]
  cases inserted : answers.insert with
  | crashes => exact absurd inserted answered.insert
  | fails why =>
    simp only [Action.run, preparedInsert, Sql.attempt, Action.bind_eq, Action.bind, Action.pure_eq, Action.pure,
      Action.dropResult, Action.stop, Sql.lastInsertRowid]
  | runs =>
    obtain ⟨id, maps⟩ : ∃ id, Dictionary.Maps (table.read connection.db) id key := by
      by_contra absent
      exact failed ⟨preparedInsert, inserted, not_exists.mp absent⟩
    have refused := Sql.insertInto_present maps
    simp only [Action.run] at refused
    simp only [Action.run, preparedInsert, Sql.attempt, Action.bind_eq, Action.bind, Action.pure_eq, Action.pure,
      Action.dropResult, refused, Sql.lastInsertRowid]

end

theorem InternsSafely.of_error {why : SqlError}
    (ended : (findOrCreate table answers key).run connection = ⟨.error (.err why), connection⟩) :
    InternsSafely table answers connection key := by
  refine ⟨fun id returned => ?_, fun _ _ => ?_⟩
  · rw [ended] at returned
    cases returned
  · rw [ended]
    exact ⟨⟨why, rfl⟩, rfl⟩

end

theorem interns_safely_iff {ρ : Type} {text : ρ → String} (table : DictionaryIn Db ρ String text) (answers : Answers)
    (answered : answers.Answered) (connection : Connection Db) (key : String) :
    InternsSafely table answers connection key ↔
      (ExecutesInsert table answers connection key → Writes table answers connection key) := by
  constructor
  · intro safe ⟨prepared, missed, preparedInsert⟩
    by_contra failed
    obtain ⟨⟨why, outcome⟩, -⟩ := safe.refused missed failed
    rw [findOrCreate_drops prepared answered missed preparedInsert failed] at outcome
    cases outcome
  · intro succeeds
    cases prepared : answers.prepareSelect with
    | crashes => exact absurd prepared answered.prepareSelect
    | fails why => exact .of_error (findOrCreate_unprepared prepared)
    | runs =>
      by_cases reads : Reads table answers connection key
      · obtain ⟨id, ended, maps⟩ := findOrCreate_reads reads
        refine ⟨fun id' returned => ?_, fun missed => absurd reads missed⟩
        rw [ended] at returned ⊢
        cases returned
        exact maps
      · cases preparedInsert : answers.prepareInsert with
        | crashes => exact absurd preparedInsert answered.prepareInsert
        | fails why => exact .of_error (findOrCreate_insertUnprepared prepared answered reads preparedInsert)
        | runs =>
          have writes := succeeds ⟨prepared, reads, preparedInsert⟩
          obtain ⟨id, after, last, ended, maps⟩ :=
            findOrCreate_writes prepared answered preparedInsert writes
          refine ⟨fun id' returned => ?_, fun _ failed => absurd writes failed⟩
          rw [ended] at returned ⊢
          cases returned
          rwa [table.read_write]

def diskFull : Answers := { Answers.allRun with insert := .fails .failure }

theorem diskFull_answered : diskFull.Answered := by
  constructor <;> decide

/-- The author that is me has rowid 1, so a key that could not be inserted is said to be number 1. -/
theorem findOrCreateKey_stale :
    ((findOrCreate keysTable diskFull "%a").run ⟨.created "@me", 1⟩).outcome = .ok 1 ∧
    ((findOrCreate keysTable diskFull "%a").run ⟨.created "@me", 1⟩).state.db.keys.rows = [] := by
  decide +kernel

theorem interns_safely_iff_diskFull :
    InternsSafely keysTable diskFull ⟨.created "@me", 1⟩ "%a" ↔
      (ExecutesInsert keysTable diskFull ⟨.created "@me", 1⟩ "%a" →
        Writes keysTable diskFull ⟨.created "@me", 1⟩ "%a") :=
  interns_safely_iff keysTable diskFull diskFull_answered ⟨.created "@me", 1⟩ "%a"

end FlumeViewSql

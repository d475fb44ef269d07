import FlumeViewSql.Source.Setup

/-! What one call of `new` leaves of a file, whatever becomes of its statements.

The version row alone tells the next call that the file is set up, but it is committed
before the author that is me. What can be lost lies between these two.
-/

set_option autoImplicit false

namespace FlumeViewSql

open Execution Relational

/-- Everything that `new` creates, in order. -/
def setupObjects : Creates := createTables ++ createIndices ++ createViews

/-- A file whose set-up is complete. -/
structure Initialised (pubKey : String) (file : DbFile) : Prop where
  objects : ∀ object ∈ setupObjects, object ∈ file.objects
  version : ∃ row ∈ file.migrations.rows, row.2.version = .integer migrationVersionNumber.toNat
  me : (file.tables.authors.rows.filter fun row => row.2.isMe = some true).map (fun row => row.2.author) = [pubKey]

/-- The version query answers that the file is up to date. -/
def DbFile.IsCurrent (file : DbFile) : Prop := file.version = .ok migrationVersionNumber

instance (file : DbFile) : Decidable file.IsCurrent := inferInstanceAs (Decidable (_ = _))

/-! ### The files that calls leave -/

/-- `new` has created the objects, and committed nothing else. -/
def createdObjects (objects : Creates) : DbFile := ⟨objects, .empty, .empty⟩

/-- The version row is there, and no author yet. -/
def versioned : DbFile :=
  { createdObjects setupObjects with
    migrations := ⟨[(0, ⟨.integer migrationVersionNumber.toNat⟩)], List.pairwise_singleton _ _, List.nodup_nil⟩ }

def completed (pubKey : String) : DbFile := { versioned with tables := .created pubKey }

theorem completed_initialised (pubKey : String) : Initialised pubKey (completed pubKey) :=
  ⟨fun _ member => member, ⟨_, List.mem_singleton_self _, rfl⟩, rfl⟩

theorem isCurrent_of_versioned {file : DbFile} (objects : file.objects = setupObjects)
    (migrations : file.migrations = versioned.migrations) : file.IsCurrent := by
  have current : versioned.version = .ok migrationVersionNumber := by decide +kernel
  unfold DbFile.IsCurrent
  rw [← current]
  unfold DbFile.version DbFile.hasColumns
  rw [objects, migrations]
  rfl

/-- The file passes for set up, but has no author that is me. -/
structure Unowned (file : DbFile) : Prop where
  current : file.IsCurrent
  nobody : ∀ row ∈ file.tables.authors.rows, row.2.isMe ≠ some true

theorem Unowned.not_initialised {file : DbFile} (unowned : Unowned file) (pubKey : String) :
    ¬ Initialised pubKey file := by
  intro initialised
  have none : file.tables.authors.rows.filter (fun row => row.2.isMe = some true) = [] := by
    apply List.filter_eq_nil_iff.mpr
    intro row member
    simpa using unowned.nobody row member
  have me := initialised.me
  rw [none] at me
  cases me

def DbFile.Unversioned (file : DbFile) : Prop := file.migrations.rows = []

theorem DbFile.Unversioned.not_current {file : DbFile} (unversioned : file.Unversioned) : ¬ file.IsCurrent := by
  intro current
  unfold DbFile.IsCurrent DbFile.version at current
  rw [show file.migrations.rows = [] from unversioned] at current
  split at current <;> cases current

/-! ### What a call is told -/

/-- A rebuild gets as far as committing the version row. -/
structure Recreates (answers : OpenAnswers) : Prop where
  removed : answers.removeFile = .runs
  reopened : answers.createAgain = .runs
  created : ∀ object ∈ setupObjects, answers.create object = .runs
  versioned : answers.setDbVersion = .runs

/-- The call finds the file outdated, or cannot tell, and gets as far as committing the version row. -/
structure CommitsVersion (file : DbFile) (answers : OpenAnswers) : Prop extends Recreates answers where
  opened : answers.createConnection = .runs
  answered : answers.selectVersion ≠ .crashes
  outdated : answers.selectVersion = .runs → ¬ file.IsCurrent

/-- The string is interned in an empty table; only a crash matters to the `SELECT`. -/
structure Answers.Intern (answers : Answers) : Prop where
  prepared : answers.prepareSelect = .runs
  selected : answers.select ≠ .crashes
  preparedInsert : answers.prepareInsert = .runs
  inserted : answers.insert = .runs

/-- What follows the version row is done too. -/
structure FinishesSetup (answers : OpenAnswers) : Prop where
  interned : answers.findOrCreateAuthor.Intern
  updated : answers.updateIsMe = .runs

/-- The call is not disturbed between the version row and the author that is me. -/
def Spared (file : DbFile) (answers : OpenAnswers) : Prop := CommitsVersion file answers → FinishesSetup answers

theorem finishesSetup_allRun : FinishesSetup .allRun := by
  have selected : OpenAnswers.allRun.findOrCreateAuthor.select ≠ .crashes := by decide
  exact ⟨⟨rfl, selected, rfl, rfl⟩, rfl⟩

/-! ### One call -/

/-- Every object that `new` creates has a new name, and an index finds its columns. -/
theorem creatable {seen rest : Creates} {object : SchemaObject} (parts : setupObjects = seen ++ object :: rest) :
    object.name ∉ seen.map SchemaObject.name ∧ (createdObjects seen).admits object = true := by
  -- The list is fixed, so each of its beginnings can be checked.
  have all : ∀ (position : Nat) (bound : position < setupObjects.length),
      setupObjects[position].name ∉ (setupObjects.take position).map SchemaObject.name ∧
        (createdObjects (setupObjects.take position)).admits setupObjects[position] = true := by
    decide +kernel
  have bound : seen.length < setupObjects.length := by simp [parts]
  have here := all seen.length bound
  have found : setupObjects[seen.length] = object := by simp [parts]
  have before : setupObjects.take seen.length = seen := by simp [parts]
  rwa [found, before] at here

theorem create_ends (answers : OpenAnswers) (seen objects rest : Creates)
    (parts : setupObjects = seen ++ (objects ++ rest)) :
    Action.Ends (create answers objects) ⟨createdObjects seen, 0⟩
      (fun _ after => (∀ object ∈ objects, answers.create object = .runs) ∧
        after = ⟨createdObjects (seen ++ objects), 0⟩)
      (fun after => (∃ object ∈ setupObjects, answers.create object ≠ .runs) ∧ after.db.Unversioned) := by
  apply Action.Ends.forEach fun done (now : Connection DbFile) =>
    (∀ object ∈ done, answers.create object = .runs) ∧ now = ⟨createdObjects (seen ++ done), 0⟩
  · simp
  · rintro done object others now split ⟨ran, rfl⟩
    have here : setupObjects = (seen ++ done) ++ object :: (others ++ rest) := by rw [parts, split]; simp
    apply Sql.attempt_ends
    · intro runs
      obtain ⟨fresh, admitted⟩ := creatable here
      have added : (createIfNotExists object).run ⟨createdObjects (seen ++ done), 0⟩ =
          ⟨.ok (), ⟨createdObjects (seen ++ (done ++ [object])), 0⟩⟩ := by
        have fresh' : object.name ∉ (createdObjects (seen ++ done)).objects.map SchemaObject.name := fresh
        simp only [Action.run, createIfNotExists, if_neg fresh', admitted, if_true]
        simp [createdObjects]
      apply Action.Ends.of_ok added
      simpa [or_imp, forall_and] using ⟨ran, runs⟩
    · intro disturbed
      exact ⟨⟨object, by simp [here], disturbed⟩, rfl⟩

/-- The database once the first author has been interned. -/
def interned (myKey : String) : Db :=
  { Db.empty with authors := ⟨[(1, ⟨myKey, none⟩)], List.pairwise_singleton _ _, List.nodup_singleton _⟩ }

theorem insertAuthor_ends (prepareInsert insert : Answer) (myKey : String) :
    Action.Ends (do
        Sql.attempt prepareInsert (pure ())
        (Sql.attempt insert (Sql.insertInto authorsTable.toTableIn (authorsTable.blank myKey))).dropResult
        Sql.lastInsertRowid : Sql Db Int) ⟨.empty, 0⟩
      (fun id after => (prepareInsert = .runs ∧ insert = .runs ∧ id = 1 ∧ after.db = interned myKey) ∨
        (insert ≠ .runs ∧ id = 0 ∧ after.db = .empty))
      (fun after => ¬ (prepareInsert = .runs ∧ insert = .runs) ∧ after.db = .empty) := by
  cases prepareInsert with
  | runs =>
    cases insert with
    | runs => exact .of_ok (t := ⟨interned myKey, 1⟩) rfl (.inl ⟨rfl, rfl, rfl, rfl⟩)
    -- The error is dropped, and the last rowid is still that of the version row.
    | fails why => exact .of_ok (t := ⟨.empty, 0⟩) rfl (.inr ⟨by simp, rfl, rfl⟩)
    | crashes => exact .of_error (t := ⟨.empty, 0⟩) rfl ⟨by simp, rfl⟩
  | fails why => exact .of_error (t := ⟨.empty, 0⟩) rfl ⟨by simp, rfl⟩
  | crashes => exact .of_error (t := ⟨.empty, 0⟩) rfl ⟨by simp, rfl⟩

/-- The author is interned, or nothing is; the call returns in either case. -/
theorem firstAuthor_ends (answers : Answers) (myKey : String) :
    Action.Ends (findOrCreate authorsTable answers myKey) ⟨.empty, 0⟩
      (fun id after => (answers.Intern ∧ id = 1 ∧ after.db = interned myKey) ∨
        (¬ answers.Intern ∧ id = 0 ∧ after.db = .empty))
      (fun after => ¬ answers.Intern ∧ after.db = .empty) := by
  obtain ⟨prepareSelect, select, prepareInsert, insert⟩ := answers
  by_cases unprepared : prepareSelect ≠ .runs ∨ select = .crashes
  · have stays : ∃ why, (findOrCreate authorsTable ⟨prepareSelect, select, prepareInsert, insert⟩ myKey).run
        ⟨.empty, 0⟩ = ⟨.error why, ⟨.empty, 0⟩⟩ := by
      cases prepareSelect with
      | fails why => exact ⟨_, rfl⟩
      | crashes => exact ⟨_, rfl⟩
      | runs =>
        rcases unprepared with failed | rfl
        · exact absurd rfl failed
        · exact ⟨_, rfl⟩
    obtain ⟨why, stopped⟩ := stays
    apply Action.Ends.of_error stopped
    exact ⟨fun intern => unprepared.elim (· intern.prepared) intern.selected, rfl⟩
  · obtain ⟨rfl, selected⟩ : prepareSelect = .runs ∧ select ≠ .crashes := by
      simpa only [not_or, not_not] using unprepared
    -- An empty table answers the `SELECT` with no row, which is handled as any failure is.
    have handled : (findOrCreate authorsTable ⟨.runs, select, prepareInsert, insert⟩ myKey).run ⟨.empty, 0⟩ =
        Action.run (do
          Sql.attempt prepareInsert (pure ())
          (Sql.attempt insert (Sql.insertInto authorsTable.toTableIn (authorsTable.blank myKey))).dropResult
          Sql.lastInsertRowid : Sql Db Int) ⟨.empty, 0⟩ := by
      apply findOrCreate_missed rfl selected
      exact fun _ id maps => List.not_mem_nil maps.choose_spec.1
    apply (Action.Ends.of_run_eq handled (insertAuthor_ends prepareInsert insert myKey)).mono
    · rintro id after (⟨prepared, inserted, rfl, db⟩ | ⟨failed, rfl, db⟩)
      · exact .inl ⟨⟨rfl, selected, prepared, inserted⟩, rfl, db⟩
      · exact .inr ⟨fun intern => failed intern.inserted, rfl, db⟩
    · rintro after ⟨failed, db⟩
      exact ⟨fun intern => failed ⟨intern.preparedInsert, intern.inserted⟩, db⟩

theorem onTables_ends {α : Type} {statement : Sql Db α} {connection : Connection DbFile}
    {post : α → Connection Db → Prop} {stopped : Connection Db → Prop}
    (ends : Action.Ends statement ⟨connection.db.tables, connection.lastInsertRowid⟩ post stopped) :
    Action.Ends (onTables statement) connection
      (fun a after => ∃ now, post a now ∧ after.db = { connection.db with tables := now.db })
      (fun after => ∃ now, stopped now ∧ after.db = { connection.db with tables := now.db }) := by
  have unfolded : (onTables statement).run connection =
      ⟨(statement.run ⟨connection.db.tables, connection.lastInsertRowid⟩).outcome,
        ⟨{ connection.db with tables := (statement.run ⟨connection.db.tables, connection.lastInsertRowid⟩).state.db },
          (statement.run ⟨connection.db.tables, connection.lastInsertRowid⟩).state.lastInsertRowid⟩⟩ := rfl
  rcases Action.run_cases statement ⟨connection.db.tables, connection.lastInsertRowid⟩ with
    ⟨a, now, ended⟩ | ⟨why, now, ended⟩ <;> rw [ended] at unfolded
  · exact .of_ok unfolded ⟨now, ends.ok ended, rfl⟩
  · exact .of_error unfolded ⟨now, ends.error ended, rfl⟩

theorem unowned_versioned {tables : Db} (nobody : ∀ row ∈ tables.authors.rows, row.2.isMe ≠ some true) :
    Unowned { versioned with tables := tables } :=
  ⟨isCurrent_of_versioned rfl rfl, nobody⟩

/-- Behind the version row: the author that is me is there, or nobody is and the file passes for set up. -/
theorem setAuthorThatIsMe_ends (answers : OpenAnswers) (myKey : String) :
    Action.Ends (setAuthorThatIsMe answers myKey) ⟨versioned, 0⟩
      (fun _ after => (FinishesSetup answers ∧ after.db = completed myKey) ∨
        (¬ FinishesSetup answers ∧ Unowned after.db))
      (fun after => ¬ FinishesSetup answers ∧ Unowned after.db) := by
  have nobody : Unowned versioned := ⟨isCurrent_of_versioned rfl rfl, List.forall_mem_nil _⟩
  have somebody : Unowned { versioned with tables := interned myKey } := unowned_versioned (by simp [interned])
  have interning : Action.Ends (onTables (findOrCreate authorsTable answers.findOrCreateAuthor myKey)) ⟨versioned, 0⟩
      (fun id now =>
        (answers.findOrCreateAuthor.Intern ∧ id = 1 ∧ now.db = { versioned with tables := interned myKey }) ∨
        (¬ answers.findOrCreateAuthor.Intern ∧ id = 0 ∧ now.db = versioned))
      (fun after => ¬ FinishesSetup answers ∧ Unowned after.db) := by
    apply (onTables_ends (firstAuthor_ends answers.findOrCreateAuthor myKey)).mono
    · rintro id after ⟨now, ⟨intern, rfl, same⟩ | ⟨failed, rfl, same⟩, file⟩
      · exact .inl ⟨intern, rfl, by rw [file, same]⟩
      · exact .inr ⟨failed, rfl, by rw [file, same]; rfl⟩
    · rintro after ⟨now, ⟨failed, same⟩, file⟩
      refine ⟨fun finishes => failed finishes.interned, ?_⟩
      rw [file, same]
      exact nobody
  apply interning.bind
  rintro id ⟨file, last⟩ (⟨intern, rfl, same⟩ | ⟨failed, rfl, same⟩)
  · cases same
    apply Sql.attempt_ends
    · intro updated
      exact .of_ok (t := ⟨completed myKey, last⟩) rfl (.inl ⟨⟨intern, updated⟩, rfl⟩)
    · exact fun disturbed => ⟨fun finishes => disturbed finishes.updated, somebody⟩
  · cases same
    apply Sql.attempt_ends
    · intro updated
      exact .of_ok (t := ⟨versioned, last⟩) rfl (.inr ⟨fun finishes => failed finishes.interned, nobody⟩)
    · exact fun disturbed => ⟨fun finishes => disturbed finishes.updated, nobody⟩

/-- All three groups of objects, created in an empty file. -/
theorem creates_ends (answers : OpenAnswers) {stopped : Connection DbFile → Prop} {next : Sql DbFile Unit}
    {post : Unit → Connection DbFile → Prop}
    (failed : ∀ after, (∃ object ∈ setupObjects, answers.create object ≠ .runs) → after.db.Unversioned → stopped after)
    (rest : (∀ object ∈ setupObjects, answers.create object = .runs) →
      Action.Ends next ⟨createdObjects setupObjects, 0⟩ post stopped) :
    Action.Ends (do
      create answers createTables
      create answers createIndices
      create answers createViews
      next) ⟨.empty, 0⟩ post stopped := by
  have tables := create_ends answers [] createTables (createIndices ++ createViews) (by
    rw [setupObjects, List.nil_append, List.append_assoc])
  have indices := create_ends answers createTables createIndices createViews (by
    rw [setupObjects, List.append_assoc])
  have views := create_ends answers (createTables ++ createIndices) createViews [] (by
    rw [setupObjects, List.append_nil])
  have fails : ∀ after : Connection DbFile, (∃ object ∈ setupObjects, answers.create object ≠ .runs) ∧
      after.db.Unversioned → stopped after := fun after ⟨disturbed, unversioned⟩ => failed after disturbed unversioned
  apply (tables.mono (fun _ _ => id) fails).bind
  rintro _ _ ⟨ranTables, rfl⟩
  apply (indices.mono (fun _ _ => id) fails).bind
  rintro _ _ ⟨ranIndices, rfl⟩
  apply (views.mono (fun _ _ => id) fails).bind
  rintro _ _ ⟨ranViews, rfl⟩
  apply rest
  intro object member
  rcases List.mem_append.mp member with either | view
  · exact (List.mem_append.mp either).elim (ranTables object) (ranIndices object)
  · exact ranViews object view

/-- What a call leaves of a file. -/
inductive NewLeaves (pubKey : String) (file : DbFile) (answers : OpenAnswers) : DbFile → Prop
  | completed : CommitsVersion file answers → FinishesSetup answers → NewLeaves pubKey file answers (completed pubKey)
  | unowned {after : DbFile} : CommitsVersion file answers → ¬ FinishesSetup answers → Unowned after →
      NewLeaves pubKey file answers after
  | kept : ¬ CommitsVersion file answers → NewLeaves pubKey file answers file
  | unversioned {after : DbFile} : ¬ CommitsVersion file answers → after.Unversioned →
      NewLeaves pubKey file answers after

section
variable (answers : OpenAnswers) (pubKey : String) {file : DbFile} {last : Int}

/-- One statement of a call: it runs, or the call stops and leaves the file as it was before it. -/
theorem stage_ends {answer : Answer} {statement : Sql DbFile Unit} {connection next : Connection DbFile}
    (ran : statement.run connection = ⟨.ok (), next⟩)
    (leaves : answer ≠ .runs → NewLeaves pubKey file answers connection.db)
    (disturbs : answer ≠ .runs → answers ≠ .allRun) :
    Action.Ends (Sql.attempt answer statement) connection (fun _ now => answer = .runs ∧ now = next)
      (fun after => NewLeaves pubKey file answers after.db ∧ answers ≠ .allRun) := by
  apply Sql.attempt_ends
  · intro runs
    exact .of_ok ran ⟨runs, rfl⟩
  · intro disturbed
    exact ⟨leaves disturbed, disturbs disturbed⟩

/-- A call that rebuilds the file, from where it decides to. -/
theorem rebuild_ends (opened : answers.createConnection = .runs) (answered : answers.selectVersion ≠ .crashes)
    (outdated : answers.selectVersion = .runs → ¬ file.IsCurrent) :
    Action.Ends (rebuild answers pubKey) ⟨file, last⟩
      (fun _ after => NewLeaves pubKey file answers after.db ∧ after.db.IsCurrent)
      (fun after => NewLeaves pubKey file answers after.db ∧ answers ≠ .allRun) := by
  unfold rebuild
  have removing : Action.Ends (removeFile answers.removeFile) ⟨file, last⟩
      (fun _ now => answers.removeFile = .runs ∧ now = ⟨.empty, last⟩)
      (fun after => NewLeaves pubKey file answers after.db ∧ answers ≠ .allRun) := by
    apply stage_ends answers pubKey
    · rfl
    · exact fun disturbed => .kept fun commits => disturbed commits.removed
    · exact fun disturbed none => disturbed (none ▸ rfl)
  apply removing.unwrap.bind
  rintro _ _ ⟨removed, rfl⟩
  have opening : Action.Ends (createConnection answers.createAgain) ⟨.empty, last⟩
      (fun _ now => answers.createAgain = .runs ∧ now = ⟨.empty, 0⟩)
      (fun after => NewLeaves pubKey file answers after.db ∧ answers ≠ .allRun) := by
    apply stage_ends answers pubKey
    · rfl
    · exact fun disturbed => .unversioned (fun commits => disturbed commits.reopened) rfl
    · exact fun disturbed none => disturbed (none ▸ rfl)
  apply opening.bind
  rintro _ _ ⟨reopened, rfl⟩
  apply creates_ends answers
  · intro after ⟨object, member, disturbed⟩ unversioned
    exact ⟨.unversioned (fun commits => disturbed (commits.created object member)) unversioned,
      fun none => disturbed (none ▸ rfl)⟩
  · intro created
    have versioning : Action.Ends (setDbVersion answers) ⟨createdObjects setupObjects, 0⟩
        (fun _ now => answers.setDbVersion = .runs ∧ now = ⟨versioned, 0⟩)
        (fun after => NewLeaves pubKey file answers after.db ∧ answers ≠ .allRun) := by
      apply stage_ends answers pubKey
      · rfl
      · exact fun disturbed => .unversioned (fun commits => disturbed commits.versioned) rfl
      · exact fun disturbed none => disturbed (none ▸ rfl)
    apply versioning.bind
    rintro _ _ ⟨committed, rfl⟩
    have commits : CommitsVersion file answers :=
      ⟨⟨removed, reopened, created, committed⟩, opened, answered, outdated⟩
    apply (setAuthorThatIsMe_ends answers pubKey).mono
    · rintro _ ⟨_, _⟩ (⟨finishes, rfl⟩ | ⟨unfinished, unowned⟩)
      · exact ⟨.completed commits finishes, isCurrent_of_versioned rfl rfl⟩
      · exact ⟨.unowned commits unfinished unowned, unowned.current⟩
    · rintro after ⟨unfinished, unowned⟩
      exact ⟨.unowned commits unfinished unowned, fun none => unfinished (none ▸ finishesSetup_allRun)⟩

/-- The query says that the file is current, or counts as saying that it is not. -/
theorem isDbUpToDate_answers {answer : Answer} (answered : answer ≠ .crashes) (connection : Connection DbFile) :
    (isDbUpToDate answer).run connection =
      ⟨.ok (decide (answer = .runs ∧ connection.db.IsCurrent)), connection⟩ := by
  cases answer with
  | crashes => exact absurd rfl answered
  | fails why => rfl
  | runs =>
    cases found : connection.db.version with
    | error why =>
      have outdated : ¬ connection.db.IsCurrent := by simp [DbFile.IsCurrent, found]
      simp [Action.run, isDbUpToDate, Sql.attempt, selectVersion, Action.orElse, Action.bind_eq, Action.bind,
        Action.pure_eq, Action.pure, found, outdated]
    | ok version =>
      have decided : decide connection.db.IsCurrent = (version == migrationVersionNumber) := by
        rw [Bool.eq_iff_iff]
        simp [DbFile.IsCurrent, found]
      simp [Action.run, isDbUpToDate, Sql.attempt, selectVersion, Action.orElse, Action.bind_eq, Action.bind,
        Action.pure_eq, Action.pure, found, decided]

theorem isDbUpToDate_run {answer : Answer} (answered : answer ≠ .crashes) (connection : Connection DbFile) :
    ((isDbUpToDate answer).orElse fun _ => pure true).run connection =
      ⟨.ok (decide (answer = .runs ∧ connection.db.IsCurrent)), connection⟩ := by
  have answers := isDbUpToDate_answers answered connection
  simp only [Action.run] at answers
  simp only [Action.run, Action.orElse, answers]

theorem setPragmas_ends (connection : Connection DbFile) :
    Action.Ends (setPragmas answers) connection (fun _ after => after = connection)
      (fun after => after = connection ∧ answers ≠ .allRun) := by
  have pragma : ∀ name, Action.Ends (Sql.attempt (answers.pragma name) (pure ())).unwrap connection
      (fun _ after => after = connection) (fun after => after = connection ∧ answers ≠ .allRun) := by
    intro name
    apply Action.Ends.unwrap
    apply Sql.attempt_ends
    · exact fun _ => Action.Ends.pure rfl
    · exact fun disturbed => ⟨rfl, by rintro rfl; exact disturbed rfl⟩
  apply (pragma "synchronous = OFF").bind
  rintro _ _ rfl
  exact pragma "page_size = 4096"

/-- One call of `new`, whatever becomes of its steps. -/
theorem new_ends (connection : Connection DbFile) : Action.Ends (new answers pubKey) connection
    (fun _ after => NewLeaves pubKey connection.db answers after.db ∧ after.db.IsCurrent)
    (fun after => NewLeaves pubKey connection.db answers after.db ∧ answers ≠ .allRun) := by
  obtain ⟨file, last⟩ := connection
  have opening : Action.Ends (createConnection answers.createConnection) ⟨file, last⟩
      (fun _ now => answers.createConnection = .runs ∧ now = ⟨file, 0⟩)
      (fun after => NewLeaves pubKey file answers after.db ∧ answers ≠ .allRun) := by
    apply stage_ends answers pubKey
    · rfl
    · exact fun disturbed => .kept fun commits => disturbed commits.opened
    · exact fun disturbed none => disturbed (none ▸ rfl)
  have finishing : ∀ connection : Connection DbFile, NewLeaves pubKey file answers connection.db →
      connection.db.IsCurrent → Action.Ends (setPragmas answers) connection
        (fun _ after => NewLeaves pubKey file answers after.db ∧ after.db.IsCurrent)
        (fun after => NewLeaves pubKey file answers after.db ∧ answers ≠ .allRun) := by
    intro connection leaves current
    apply (setPragmas_ends answers connection).mono
    · rintro _ _ rfl
      exact ⟨leaves, current⟩
    · rintro _ ⟨rfl, disturbed⟩
      exact ⟨leaves, disturbed⟩
  unfold new
  apply opening.bind
  rintro _ _ ⟨opened, rfl⟩
  by_cases crashes : answers.selectVersion = .crashes
  · have crashed : ((isDbUpToDate answers.selectVersion).orElse fun _ => pure true).run ⟨file, 0⟩ =
        ⟨.error .panic, ⟨file, 0⟩⟩ := by
      rw [crashes]
      rfl
    apply Action.Ends.of_error (Action.bind_of_error _ crashed)
    exact ⟨.kept fun commits => commits.answered crashes, by rintro rfl; cases crashes⟩
  · have answer := isDbUpToDate_run crashes ⟨file, 0⟩
    apply Action.Ends.of_run_eq (Action.bind_of_ok _ answer)
    by_cases current : answers.selectVersion = .runs ∧ file.IsCurrent
    · have decided : decide (answers.selectVersion = .runs ∧ file.IsCurrent) = true := decide_eq_true current
      rw [decided]
      exact finishing ⟨file, 0⟩ (.kept fun commits => commits.outdated current.1 current.2) current.2
    · have decided : decide (answers.selectVersion = .runs ∧ file.IsCurrent) = false := decide_eq_false current
      rw [decided]
      have outdated : answers.selectVersion = .runs → ¬ file.IsCurrent := fun runs up => current ⟨runs, up⟩
      apply (rebuild_ends answers pubKey opened crashes outdated).bind
      rintro _ after ⟨leaves, up⟩
      exact finishing after leaves up

end

end FlumeViewSql

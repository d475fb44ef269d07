import FlumeViewSql.Execution.Calls
import FlumeViewSql.Index.Opening

/-! Histories of calls of `new` on one path, each of which may be disturbed anywhere. -/

set_option autoImplicit false

namespace FlumeViewSql

open Execution Relational

section
variable (pubKey : String)

theorem new_allRun (connection : Connection DbFile) : ∃ last, (new .allRun pubKey).run connection =
    ⟨.ok (), ⟨if connection.db.IsCurrent then connection.db else completed pubKey, last⟩⟩ := by
  obtain ⟨file, last⟩ := connection
  have ends : Action.Ends (new .allRun pubKey) ⟨file, last⟩
      (fun _ after => NewLeaves pubKey file .allRun after.db ∧ after.db.IsCurrent) fun _ => False :=
    (new_ends .allRun pubKey ⟨file, last⟩).mono (fun _ _ => id) fun _ stopped => stopped.2 rfl
  obtain ⟨_, ⟨after, last'⟩, ended, leaves, current⟩ := ends.returns
  refine ⟨last', ?_⟩
  rw [ended]
  cases leaves with
  | completed commits =>
    rw [if_neg (commits.outdated rfl)]
    rfl
  | unowned _ unfinished => exact absurd finishesSetup_allRun unfinished
  | kept => rw [if_pos current]
  | unversioned _ unversioned => exact absurd current unversioned.not_current

/-- Where every history of appended messages starts. -/
theorem new_creates : ((new .allRun pubKey).run ⟨.empty, 0⟩).state.db.tables = .created pubKey := by
  obtain ⟨last, ended⟩ := new_allRun pubKey ⟨.empty, 0⟩
  have outdated : ¬ DbFile.empty.IsCurrent := DbFile.Unversioned.not_current rfl
  rw [ended, if_neg outdated]
  rfl

/-- What a call of `new` is for: when it returns, the file is initialised, and calling again changes nothing. -/
def Opens (connection : Connection DbFile) (answers : OpenAnswers) : Prop :=
  ((new answers pubKey).run connection).outcome = .ok () →
    Initialised pubKey ((new answers pubKey).run connection).state.db ∧
    ((new .allRun pubKey).run ((new answers pubKey).run connection).state).outcome = .ok () ∧
    ((new .allRun pubKey).run ((new answers pubKey).run connection).state).state.db =
      ((new answers pubKey).run connection).state.db

def connectionAfterCalls (calls : List OpenAnswers) : Connection DbFile :=
  Action.after (fun answers => new answers pubKey) calls ⟨.empty, 0⟩

/-- After each beginning of the calls, the next one and an undisturbed one both do what they are for. -/
def CrashSafe (calls : List OpenAnswers) : Prop :=
  ∀ before after, calls = before ++ after → ∀ next ∈ OpenAnswers.allRun :: after.take 1,
    Opens pubKey (connectionAfterCalls pubKey before) next

/-- No call is disturbed between committing the version row and setting the author that is me. -/
def AllSpared (calls : List OpenAnswers) : Prop :=
  ∀ before next after, calls = before ++ next :: after → Spared (connectionAfterCalls pubKey before).db next

variable {pubKey}

/-- What spared calls keep true of the file. -/
def DbFile.Recoverable (pubKey : String) (file : DbFile) : Prop := file.Unversioned ∨ file = completed pubKey

theorem NewLeaves.recoverable {file after : DbFile} {answers : OpenAnswers}
    (leaves : NewLeaves pubKey file answers after) (recoverable : file.Recoverable pubKey)
    (spared : Spared file answers) : after.Recoverable pubKey := by
  cases leaves with
  | completed => exact .inr rfl
  | unowned commits unfinished => exact absurd (spared commits) unfinished
  | kept => exact recoverable
  | unversioned _ unversioned => exact .inl unversioned

theorem NewLeaves.unowned_of_not_spared {file after : DbFile} {answers : OpenAnswers}
    (leaves : NewLeaves pubKey file answers after) (disturbed : ¬ Spared file answers) : Unowned after := by
  obtain ⟨commits, unfinished⟩ := Classical.not_imp.mp disturbed
  cases leaves with
  | completed _ finishes => exact absurd finishes unfinished
  | unowned _ _ unowned => exact unowned
  | kept uncommitted => exact absurd commits uncommitted
  | unversioned uncommitted => exact absurd commits uncommitted

theorem new_leaves (connection : Connection DbFile) (answers : OpenAnswers) :
    NewLeaves pubKey connection.db answers ((new answers pubKey).run connection).state.db := by
  have leaves : Action.Ends (new answers pubKey) connection
      (fun _ after => NewLeaves pubKey connection.db answers after.db)
      (fun after => NewLeaves pubKey connection.db answers after.db) := by
    apply (new_ends answers pubKey connection).mono
    · exact fun _ after ends => ends.1
    · exact fun after ends => ends.1
  exact leaves.state

theorem DbFile.Recoverable.opens {connection : Connection DbFile} (recoverable : connection.db.Recoverable pubKey)
    {answers : OpenAnswers} (spared : Spared connection.db answers) : Opens pubKey connection answers := by
  intro returned
  have ends := new_ends answers pubKey connection
  have current := (ends.ok (Ended.eq_of_outcome returned)).2
  have final : ((new answers pubKey).run connection).state.db = completed pubKey :=
    ((new_leaves connection answers).recoverable recoverable spared).resolve_left
      fun unversioned => unversioned.not_current current
  obtain ⟨last, again⟩ := new_allRun pubKey ((new answers pubKey).run connection).state
  rw [if_pos current] at again
  rw [again, final]
  exact ⟨completed_initialised pubKey, rfl, rfl⟩

theorem connectionAfterCalls_concat (calls : List OpenAnswers) (answers : OpenAnswers) :
    connectionAfterCalls pubKey (calls ++ [answers]) =
      ((new answers pubKey).run (connectionAfterCalls pubKey calls)).state := by
  rw [connectionAfterCalls, Action.after_append]
  rfl

theorem recoverable_of_allSpared {calls : List OpenAnswers} (spared : AllSpared pubKey calls) :
    (connectionAfterCalls pubKey calls).db.Recoverable pubKey := by
  induction calls using List.reverseRecOn with
  | nil => exact .inl rfl
  | append_singleton calls answers ih =>
    have before : (connectionAfterCalls pubKey calls).db.Recoverable pubKey := by
      apply ih
      intro earlier next later parts
      exact spared earlier next (later ++ [answers]) (by simp [parts])
    rw [connectionAfterCalls_concat]
    exact (new_leaves _ answers).recoverable before (spared calls answers [] rfl)

end

theorem new_crashSafe_iff (pubKey : String) (calls : List OpenAnswers) :
    CrashSafe pubKey calls ↔ AllSpared pubKey calls := by
  constructor
  · intro safe before next after parts
    by_contra disturbed
    -- The disturbed call leaves a file that passes for set up; the call after it, undisturbed, keeps it.
    have unowned : Unowned (connectionAfterCalls pubKey (before ++ [next])).db := by
      rw [connectionAfterCalls_concat]
      exact (new_leaves _ next).unowned_of_not_spared disturbed
    have opens := safe (before ++ [next]) after (by simp [parts]) .allRun List.mem_cons_self
    obtain ⟨last, kept⟩ := new_allRun pubKey (connectionAfterCalls pubKey (before ++ [next]))
    rw [if_pos unowned.current] at kept
    unfold Opens at opens
    rw [kept] at opens
    exact unowned.not_initialised pubKey (opens rfl).1
  · intro spared before after parts next member
    have recoverable : (connectionAfterCalls pubKey before).db.Recoverable pubKey := by
      apply recoverable_of_allSpared
      intro earlier other later split
      exact spared earlier other (later ++ after) (by simp [parts, split])
    apply recoverable.opens
    rcases List.mem_cons.mp member with rfl | following
    · exact fun _ => finishesSetup_allRun
    · obtain ⟨rest, rfl⟩ : ∃ rest, after = next :: rest := by
        cases after with
        | nil => simp at following
        | cons first rest =>
          rw [List.take_succ_cons, List.take_zero, List.mem_singleton] at following
          exact ⟨rest, by rw [following]⟩
      exact spared before next rest parts

/-- A call that crashes when the version row is committed. -/
def crashBehindVersion : OpenAnswers :=
  { OpenAnswers.allRun with findOrCreateAuthor := ⟨.crashes, .runs, .runs, .runs⟩ }

/-- The call after it returns, and finds nothing to do; nobody is me. -/
theorem new_keeps_nobody :
    ((new .allRun "@me").run (connectionAfterCalls "@me" [crashBehindVersion])).outcome = .ok () ∧
    ((new .allRun "@me").run (connectionAfterCalls "@me" [crashBehindVersion])).state.db.tables.authors.rows = [] := by
  decide +kernel

/-! ### What a rebuild loses -/

def KeepsMessages (before after : Connection DbFile) : Prop :=
  after.db.tables.messagesRaw = before.db.tables.messagesRaw

instance : IsPreorder (Connection DbFile) KeepsMessages where
  refl _ := rfl
  trans _ _ _ early late := Eq.trans late early

def KeepsMessagesRaw (before after : Connection Db) : Prop := after.db.messagesRaw = before.db.messagesRaw

instance : IsPreorder (Connection Db) KeepsMessagesRaw where
  refl _ := rfl
  trans _ _ _ early late := Eq.trans late early

theorem findOrCreateAuthor_keepsMessages (answers : Answers) (myKey : String) :
    Action.Within KeepsMessagesRaw (findOrCreate authorsTable answers myKey) := by
  apply Action.Within.bind
  · exact Sql.attempt_within answers.prepareSelect (.pure ())
  intro _
  apply Action.Within.orElse
  · exact Sql.attempt_within answers.select (Sql.selectId_within authorsTable myKey)
  · intro why
    apply Action.Within.bind
    · exact Sql.attempt_within answers.prepareInsert (.pure ())
    intro _
    apply Action.Within.bind
    · exact (Sql.attempt_within answers.insert (Sql.change_within (fun _ _ _ => rfl) _)).dropResult
    · exact fun _ _ => rfl

theorem onTables_keepsMessages {α : Type} {statement : Sql Db α} (within : Action.Within KeepsMessagesRaw statement) :
    Action.Within KeepsMessages (onTables statement) := fun _ => within _

theorem create_keepsMessages (answers : OpenAnswers) (objects : Creates) :
    Action.Within KeepsMessages (create answers objects) := by
  apply Action.Within.forEach
  intro object
  apply Sql.attempt_within
  intro connection
  simp only [Action.run, createIfNotExists]
  split
  · rfl
  · split <;> rfl

theorem setAuthorThatIsMe_keepsMessages (answers : OpenAnswers) (myKey : String) :
    Action.Within KeepsMessages (setAuthorThatIsMe answers myKey) := by
  apply Action.Within.bind
  · exact onTables_keepsMessages (findOrCreateAuthor_keepsMessages answers.findOrCreateAuthor myKey)
  · intro id
    exact Sql.attempt_within answers.updateIsMe (onTables_keepsMessages fun _ => rfl)

/-- Behind the removal nothing is put into `messages_raw`. -/
theorem recreate_keepsMessages (answers : OpenAnswers) (pubKey : String) :
    Action.Within KeepsMessages (do
      createConnection answers.createAgain
      create answers createTables
      create answers createIndices
      create answers createViews
      setDbVersion answers
      setAuthorThatIsMe answers pubKey) := by
  apply Action.Within.bind
  · exact Sql.attempt_within answers.createAgain fun _ => rfl
  intro _
  apply (create_keepsMessages answers createTables).bind
  intro _
  apply (create_keepsMessages answers createIndices).bind
  intro _
  apply (create_keepsMessages answers createViews).bind
  intro _
  apply Action.Within.bind
  · exact Sql.attempt_within answers.setDbVersion (Sql.change_within (fun _ _ _ => rfl) _)
  · exact fun _ => setAuthorThatIsMe_keepsMessages answers pubKey

theorem setPragmas_keepsMessages (answers : OpenAnswers) : Action.Within KeepsMessages (setPragmas answers) := by
  apply Action.Within.bind
  · exact (Sql.attempt_within _ (.pure ())).unwrap
  · exact fun _ => (Sql.attempt_within _ (.pure ())).unwrap

/-! ### Opening a file that is current -/

/-- The call removes the file, because of what it was told about the version. -/
def RemovesFile (answers : OpenAnswers) (file : DbFile) : Prop :=
  answers.createConnection = .runs ∧ ((isDbUpToDate answers.selectVersion).run ⟨file, 0⟩).outcome = .ok false ∧
    answers.removeFile = .runs

section
variable {answers : OpenAnswers} (answered : answers.selectVersion ≠ .crashes) (connection : Connection DbFile)
  (pubKey : String)
include answered

theorem removesFile_iff : RemovesFile answers connection.db ↔ answers.createConnection = .runs ∧
    ¬ (answers.selectVersion = .runs ∧ connection.db.IsCurrent) ∧ answers.removeFile = .runs := by
  rw [RemovesFile, isDbUpToDate_answers answered]
  simp

theorem new_loses_messages (removes : RemovesFile answers connection.db) :
    ((new answers pubKey).run connection).state.db.tables.messagesRaw = .empty := by
  obtain ⟨opened, outdated, removed⟩ := (removesFile_iff answered connection).mp removes
  have opening : (createConnection answers.createConnection).run connection = ⟨.ok (), ⟨connection.db, 0⟩⟩ := by
    rw [opened]
    rfl
  have decided := isDbUpToDate_run answered ⟨connection.db, 0⟩
  rw [decide_eq_false outdated] at decided
  have removing : (removeFile answers.removeFile).unwrap.run ⟨connection.db, 0⟩ = ⟨.ok (), ⟨.empty, 0⟩⟩ := by
    rw [removed]
    rfl
  have recreated : Action.Ends (rebuild answers pubKey) ⟨connection.db, 0⟩
      (fun _ after => KeepsMessages ⟨.empty, 0⟩ after) (KeepsMessages ⟨.empty, 0⟩) :=
    .of_run_eq (Action.bind_of_ok _ removing) ((recreate_keepsMessages answers pubKey).ends ⟨.empty, 0⟩)
  have finished : Action.Ends (new answers pubKey) connection
      (fun _ after => KeepsMessages ⟨.empty, 0⟩ after) (KeepsMessages ⟨.empty, 0⟩) := by
    apply Action.Ends.of_run_eq (Action.bind_of_ok _ opening)
    apply Action.Ends.of_run_eq (Action.bind_of_ok _ decided)
    apply recreated.bind
    intro _ after kept
    apply ((setPragmas_keepsMessages answers).ends after).mono
    · exact fun _ _ later => trans_of KeepsMessages kept later
    · exact fun _ later => trans_of KeepsMessages kept later
  exact finished.state

/-- A current file whose version was read stays as it is; only the pragmas are left to run. -/
theorem new_keeps (opened : answers.createConnection = .runs) (selected : answers.selectVersion = .runs)
    (current : connection.db.IsCurrent) :
    (new answers pubKey).run connection = (setPragmas answers).run ⟨connection.db, 0⟩ := by
  have opening : (createConnection answers.createConnection).run connection = ⟨.ok (), ⟨connection.db, 0⟩⟩ := by
    rw [opened]
    rfl
  have decided := isDbUpToDate_run answered ⟨connection.db, 0⟩
  rw [decide_eq_true ⟨selected, current⟩] at decided
  rw [new, Action.bind_of_ok _ opening, Action.bind_of_ok _ decided]
  rfl

end

/-- A call whose version query may fail; nothing else disturbs it. -/
def asking (answer : Answer) : OpenAnswers := { OpenAnswers.allRun with selectVersion := answer }

/-- A current file is kept, and a file is removed only for what the version query found in it: no
table, no row, or another version. -/
structure OpensSafely (pubKey : String) (connection : Connection DbFile) (answer : Answer) : Prop where
  kept : connection.db.IsCurrent →
    (((new (asking answer) pubKey).run connection).outcome = .ok () ∨
      ∃ why, ((new (asking answer) pubKey).run connection).outcome = .error (.err why)) ∧
    ((new (asking answer) pubKey).run connection).state.db = connection.db
  removed : RemovesFile (asking answer) connection.db → answer = .runs ∧ ¬ connection.db.IsCurrent

theorem opens_safely_iff (pubKey : String) (connection : Connection DbFile) (answer : Answer)
    (answered : answer ≠ .crashes) : OpensSafely pubKey connection answer ↔ answer = .runs := by
  have selects : (asking answer).selectVersion ≠ .crashes := answered
  have removes := removesFile_iff selects connection
  constructor
  · intro safe
    by_contra failed
    exact failed (safe.removed (removes.mpr ⟨rfl, fun ⟨runs, _⟩ => failed runs, rfl⟩)).1
  · rintro rfl
    refine ⟨fun current => ?_, fun removed => ?_⟩
    · rw [new_keeps selects connection pubKey rfl rfl current]
      exact ⟨.inl rfl, rfl⟩
    · exact ⟨rfl, fun current => (removes.mp removed).2.1 ⟨rfl, current⟩⟩

/-- A current file that has indexed a key. -/
def indexed : DbFile := { completed "@me" with tables := ((findOrCreateKey "%a").run ⟨.created "@me", 1⟩).state.db }

/-- The version query finds the file locked; the file is removed, and what it had indexed is gone. -/
theorem new_destroys_current : indexed.IsCurrent ∧ indexed.tables.keys.rows = [(1, ⟨"%a"⟩)] ∧
    ((new (asking (.fails .failure)) "@me").run ⟨indexed, 0⟩).outcome = .ok () ∧
    ((new (asking (.fails .failure)) "@me").run ⟨indexed, 0⟩).state.db.tables.keys.rows = [] := by
  decide +kernel

theorem opens_safely_iff_read : OpensSafely "@me" ⟨indexed, 0⟩ .runs ↔ Answer.runs = .runs :=
  opens_safely_iff "@me" ⟨indexed, 0⟩ .runs (by decide)

end FlumeViewSql

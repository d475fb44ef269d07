import FlumeViewSql.Contract.Indexing
import FlumeViewSql.Contract.Integrity
import FlumeViewSql.Contract.Opening
import FlumeViewSql.Source.Session

/-! Sessions on one file and one growing log, interrupted anywhere.

However sessions open, call and die, a file that passes for set up holds the first entries of the
log for one owner. What it holds is a function of the owner and of how many entries there are, so
two files that were fed from one log agree.
-/

set_option autoImplicit false

namespace FlumeViewSql

open Execution Relational

variable {SecretKey : Type} (crates : Crates SecretKey) (secretKeys : List SecretKey) (iter : OffsetLogIter)

/-- The file is set up for its owner, and holds the first entries of the log. -/
structure DbFile.Indexes (owner : String) (log : Log) (file : DbFile) : Prop where
  current : file.IsCurrent
  initialised : Initialised owner file
  indexed : IndexesPrefix crates secretKeys owner log file.tables

def Db.me (db : Db) : List String :=
  (db.authors.rows.filter fun row => row.2.isMe = some true).map fun row => row.2.author

def DbFile.me (file : DbFile) : List String := file.tables.me

structure Session.Sound (session : Session) : Prop where
  signed : session.log.Signed
  usable : session.isOpen = true → session.file.IsCurrent
  indexes : session.file.IsCurrent → ∃ owner, session.file.Indexes crates secretKeys owner session.log

/-- The call learns the version of a file that passes for set up. -/
def ReadsVersion (file : DbFile) (answers : OpenAnswers) : Prop :=
  file.IsCurrent → ∀ why, answers.selectVersion ≠ .fails why

def Reliable (file : DbFile) (answers : OpenAnswers) : Prop := Spared file answers ∧ ReadsVersion file answers

/-- A first session is about to start: there is no file, or one that a call of `new` did not finish. -/
structure Session.Fresh (session : Session) : Prop where
  signed : session.log.Signed
  outdated : ¬ session.file.IsCurrent
  closed : session.isOpen = false

section
variable {crates secretKeys iter}

theorem Session.Fresh.sound {session : Session} (fresh : session.Fresh) : session.Sound crates secretKeys where
  signed := fresh.signed
  usable isOpen := by
    rw [fresh.closed] at isOpen
    cases isOpen
  indexes current := absurd current fresh.outdated

theorem me_compositional (me : List String) :
    Compositional fun action => Action.Within (Keeping fun db : Db => db.me = me) action where
  pure := .pure
  stop := .stop
  bind := .bind
  unwrap := .unwrap
  transaction := Sql.transaction_keeping
  key := findOrCreate_keeping fun _ _ _ _ same _ => same
  author := by
    apply findOrCreate_keeping
    intro db author rowid after same interns
    cases interns with
    | found _ => exact same
    | created absent rows =>
      -- The new row says nothing about who is me.
      have unmarked : (authorsTable.blank author).isMe ≠ some true := by simp [authorsTable]
      change (after.rows.filter fun row => row.2.isMe = some true).map (fun row => row.2.author) = me
      rw [rows, List.filter_append, List.filter_cons_of_neg (by simpa using unmarked), List.filter_nil, List.append_nil]
      exact same
  blob := findOrCreate_keeping fun _ _ _ _ same _ => same
  message _ _ := Sql.change_keeping fun _ _ _ same _ => same
  link := Sql.insertInto_keeping fun _ _ same _ => same
  mention := Sql.insertInto_keeping fun _ _ same _ => same
  blobLink := Sql.insertInto_keeping fun _ _ same _ => same
  branch := Sql.insertInto_keeping fun _ _ same _ => same
  contact _ := Sql.change_keeping fun _ _ _ same _ => same
  about := Sql.insertInto_keeping fun _ _ same _ => same

theorem Holds.me {owner : String} {held : List (Sequence × Bytes)} {db : Db}
    (holds : Holds crates secretKeys owner held db) : db.me = [owner] := by
  obtain ⟨last, ran⟩ := holds
  have keeps : Action.Within (Keeping fun db : Db => db.me = [owner])
      (Action.forEach held fun item => append crates secretKeys item.1 item.2) := by
    apply Action.Within.forEach
    exact fun item => (me_compositional [owner]).append crates secretKeys item.1 item.2
  have kept := keeps (created owner) rfl
  rwa [ran] at kept

theorem Holds.grows {owner : String} {held longer : List (Sequence × Bytes)} {db db' : Db}
    (holds : Holds crates secretKeys owner held db) (beginning : held <+: longer)
    (holds' : Holds crates secretKeys owner longer db') : db.Grows db' := by
  obtain ⟨more, rfl⟩ := beginning
  obtain ⟨last, ran⟩ := holds
  obtain ⟨last', ran'⟩ := holds'
  have within : Action.Within Grown (Action.forEach more fun item => append crates secretKeys item.1 item.2) :=
    .forEach more fun item => (append_adds crates secretKeys item.1 item.2).grows
  have grown := within ⟨db, last⟩
  rw [Action.forEach_append, Action.bind_of_ok _ ran] at ran'
  rw [ran'] at grown
  exact grown

theorem Holds.rowids {owner : String} {log : Log} (signed : log.Signed) {held : List (Sequence × Bytes)} {db : Db}
    (holds : Holds crates secretKeys owner held db) (beginning : held <+: log.entries) :
    db.messagesRaw.rows.map Prod.fst = held.map fun item => asI64 item.1 := by
  have increasing : (held.map fun item => asI64 item.1).Pairwise (· < ·) := by
    rw [List.pairwise_map]
    refine (log.increasing.sublist beginning.sublist).imp_of_mem fun {first second} member member' order => ?_
    rw [asI64_of_lt (signed first (beginning.subset member)), asI64_of_lt (signed second (beginning.subset member'))]
    exact Int.ofNat_lt.mpr (UInt64.lt_iff_toNat_lt.mp order)
  -- Both lists are in order, so that the one is a permutation of the other is enough.
  refine List.Perm.eq_of_pairwise ?_ db.messagesRaw.sorted increasing holds.flumeSeqs
  exact fun _ _ _ _ less greater => absurd greater (lt_asymm less)

/-- A log is appended in the order of its offsets, so what it adds comes behind. -/
theorem Holds.begins {owner : String} {log : Log} (signed : log.Signed) {held longer : List (Sequence × Bytes)}
    {db db' : Db} (holds : Holds crates secretKeys owner held db) (beginning : held <+: longer)
    (holds' : Holds crates secretKeys owner longer db') (within : longer <+: log.entries) : db.Begins db' where
  toGrows := holds.grows beginning holds'
  messages := by
    have rowids : db.messagesRaw.rows.map Prod.fst <+: db'.messagesRaw.rows.map Prod.fst := by
      rw [holds.rowids signed (beginning.trans within), holds'.rowids signed within]
      exact beginning.map _
    exact prefix_of_sublist (holds.grows beginning holds').messagesRaw rowids db'.messagesRaw.rowids

section
variable {owner : String} {log log' : Log} {file : DbFile} {connection : Connection DbFile}

theorem DbFile.Indexes.of_holds (indexes : file.Indexes crates secretKeys owner log) (signed : log'.Signed)
    {held : List (Sequence × Bytes)} {tables : Db} (holds : Holds crates secretKeys owner held tables)
    (beginning : held <+: log'.entries) :
    ({ file with tables := tables } : DbFile).Indexes crates secretKeys owner log' where
  current := indexes.current
  initialised := ⟨indexes.initialised.objects, indexes.initialised.version, holds.me⟩
  indexed := indexesPrefix_of_holds signed holds beginning

theorem DbFile.Indexes.grown (indexes : file.Indexes crates secretKeys owner log) (signed : log'.Signed)
    (grows : log.entries <+: log'.entries) : file.Indexes crates secretKeys owner log' :=
  indexes.of_holds signed indexes.indexed.holds ((List.take_prefix _ log.entries).trans grows)

theorem completed_indexes (signed : log.Signed) (owner : String) :
    (completed owner).Indexes crates secretKeys owner log where
  current := isCurrent_of_versioned rfl rfl
  initialised := completed_initialised owner
  indexed := indexesPrefix_of_holds signed holds_nil List.nil_prefix

/-! ### One step -/

theorem DbFile.Indexes.processUntil (starts : iter.StartsAt) (signed : log.Signed)
    (indexes : connection.db.Indexes crates secretKeys owner log) (numItems : Int64) (batches : Nat) :
    ((SsbQuery.processUntil crates secretKeys iter log numItems batches).run connection).state.db.Indexes
        crates secretKeys owner log ∧
      heldEntries connection.db.tables ≤ heldEntries
        ((SsbQuery.processUntil crates secretKeys iter log numItems batches).run connection).state.db.tables := by
  have holds : Holds crates secretKeys owner (log.entries.take (heldEntries connection.db.tables))
      (Connection.mk connection.db.tables connection.lastInsertRowid).db := indexes.indexed.holds
  obtain ⟨more, within, reached⟩ :=
    holds.processUntil_state starts (List.take_append_drop _ _).symm numItems batches
  have beginning := (List.prefix_append_right_inj (log.entries.take (heldEntries connection.db.tables))).mpr within
  rw [List.take_append_drop] at beginning
  refine ⟨indexes.of_holds signed reached beginning, ?_⟩
  have before := holds.heldEntries
  have after := reached.heldEntries
  rw [List.length_append] at after
  exact (before.trans_le (Nat.le_add_right _ _)).trans after.symm.le

/-- A call that returns or stops is one that is cut off behind its last batch. -/
theorem ssbQuery_process_eq (numItems : Int64) :
    (SsbQuery.process crates secretKeys iter log numItems).run connection =
      (SsbQuery.processUntil crates secretKeys iter log numItems
        (chunks 1000 (processItems iter log numItems (getLatest connection.db.tables))).length).run connection := by
  have same : (process crates secretKeys iter log numItems).run ⟨connection.db.tables, connection.lastInsertRowid⟩ =
      (FlumeViewSql.processUntil crates secretKeys iter log numItems
        (chunks 1000 (processItems iter log numItems (getLatest connection.db.tables))).length).run
        ⟨connection.db.tables, connection.lastInsertRowid⟩ := process_eq_processUntil numItems
  unfold SsbQuery.process SsbQuery.processUntil
  rw [onTables_run, onTables_run, same]

theorem new_returns_current {answers : OpenAnswers} {pubKey : String}
    (returned : ((SsbQuery.new answers pubKey).run connection).outcome.isOk = true) :
    ((SsbQuery.new answers pubKey).run connection).state.db.IsCurrent := by
  have ends := new_ends answers pubKey connection
  unfold SsbQuery.new at returned ⊢
  rcases Action.run_cases (new answers pubKey) connection with ⟨_, after, ended⟩ | ⟨why, after, ended⟩
  · rw [ended]
    exact (ends.ok ended).2
  · rw [ended] at returned
    cases returned

theorem NewLeaves.current {pubKey : String} {after : DbFile} {answers : OpenAnswers}
    (leaves : NewLeaves pubKey file answers after) (spared : Spared file answers) (current : after.IsCurrent) :
    after = FlumeViewSql.completed pubKey ∨ after = file := by
  cases leaves with
  | completed => exact .inl rfl
  | unowned commits unfinished => exact absurd (spared commits) unfinished
  | kept => exact .inr rfl
  | unversioned _ unversioned => exact absurd current unversioned.not_current

theorem new_keeps_current {answers : OpenAnswers} (current : connection.db.IsCurrent)
    (read : ∀ why, answers.selectVersion ≠ .fails why) (pubKey : String) :
    ((SsbQuery.new answers pubKey).run connection).state.db = connection.db := by
  unfold SsbQuery.new
  cases opened : answers.createConnection with
  | fails why =>
    have failed : (createConnection answers.createConnection).run connection = ⟨.error (.err why), connection⟩ := by
      rw [opened]
      rfl
    rw [new, Action.bind_of_error _ failed]
  | crashes =>
    have crashed : (createConnection answers.createConnection).run connection = ⟨.error .panic, connection⟩ := by
      rw [opened]
      rfl
    rw [new, Action.bind_of_error _ crashed]
  | runs =>
    cases selected : answers.selectVersion with
    | fails why => exact absurd selected (read why)
    | runs =>
      have answered : answers.selectVersion ≠ .crashes := by simp [selected]
      rw [new_keeps answered connection pubKey opened selected current]
      have kept : Action.Ends (setPragmas answers) ⟨connection.db, 0⟩ (fun _ after => after.db = connection.db)
          (fun after => after.db = connection.db) := by
        apply (setPragmas_ends answers ⟨connection.db, 0⟩).mono
        · rintro _ _ rfl
          rfl
        · rintro _ ⟨rfl, -⟩
          rfl
      exact kept.state
    | crashes =>
      have opening : (createConnection answers.createConnection).run connection = ⟨.ok (), ⟨connection.db, 0⟩⟩ := by
        rw [opened]
        rfl
      have crashed : ((isDbUpToDate answers.selectVersion).orElse fun _ => pure true).run ⟨connection.db, 0⟩ =
          ⟨.error .panic, ⟨connection.db, 0⟩⟩ := by
        rw [selected]
        rfl
      rw [new, Action.bind_of_ok _ opening, Action.bind_of_error _ crashed]

end

theorem SessionStep.sound (starts : iter.StartsAt) {session session' : Session}
    (step : SessionStep crates secretKeys iter Spared session session') (sound : session.Sound crates secretKeys) :
    session'.Sound crates secretKeys := by
  obtain ⟨signed, usable, indexes⟩ := sound
  cases step with
  | grown grows signed' =>
    refine ⟨signed', usable, fun current => ?_⟩
    obtain ⟨owner, here⟩ := indexes current
    exact ⟨owner, here.grown signed' grows⟩
  | @opened log connection answers pubKey spared =>
    refine ⟨signed, new_returns_current, fun current => ?_⟩
    have leaves := (new_leaves connection answers).current spared current
    unfold Session.file SsbQuery.new at *
    rcases leaves with created | kept
    · rw [created]
      exact ⟨pubKey, completed_indexes signed pubKey⟩
    · rw [kept] at current ⊢
      exact indexes current
  | processed numItems =>
    rw [ssbQuery_process_eq]
    refine ⟨signed, fun _ => usable rfl, fun current => ?_⟩
    obtain ⟨owner, here⟩ := indexes current
    exact ⟨owner, (here.processUntil starts signed numItems _).1⟩
  | cutOff numItems batches =>
    refine ⟨signed, nofun, fun current => ?_⟩
    obtain ⟨owner, here⟩ := indexes current
    exact ⟨owner, (here.processUntil starts signed numItems batches).1⟩
  | closed => exact ⟨signed, nofun, indexes⟩

theorem SessionStep.keeps (starts : iter.StartsAt) {session session' : Session}
    (step : SessionStep crates secretKeys iter Reliable session session') {owner : String}
    (signed : session.log.Signed) (indexes : session.file.Indexes crates secretKeys owner session.log) :
    session'.log.Signed ∧ session'.file.Indexes crates secretKeys owner session'.log ∧
      heldEntries session.file.tables ≤ heldEntries session'.file.tables := by
  cases step with
  | grown grows signed' => exact ⟨signed', indexes.grown signed' grows, Nat.le_refl _⟩
  | opened answers pubKey reliable =>
    have kept := new_keeps_current indexes.current (reliable.2 indexes.current) pubKey
    unfold Session.file at indexes ⊢
    rw [kept]
    exact ⟨signed, indexes, Nat.le_refl _⟩
  | processed numItems =>
    rw [ssbQuery_process_eq]
    exact ⟨signed, indexes.processUntil starts signed numItems _⟩
  | cutOff numItems batches => exact ⟨signed, indexes.processUntil starts signed numItems batches⟩
  | closed => exact ⟨signed, indexes, Nat.le_refl _⟩

theorem SessionStep.keeps_me {session session' : Session}
    (step : SessionStep crates secretKeys iter ReadsVersion session session') (current : session.file.IsCurrent) :
    session'.file.IsCurrent ∧ session'.file.me = session.file.me := by
  have processing : ∀ (log : Log) (connection : Connection DbFile) (numItems : Int64) (batches : Nat),
      ((SsbQuery.processUntil crates secretKeys iter log numItems batches).run connection).state.db.me =
        connection.db.me := by
    intro log connection numItems batches
    have keeps : Action.Within (Keeping fun db : Db => db.me = connection.db.tables.me)
        (processUntil crates secretKeys iter log numItems batches) := by
      intro before
      rw [processUntil_run]
      apply Action.Within.forEach
      exact fun batch => (me_compositional connection.db.tables.me).appendBatch crates secretKeys batch
    exact keeps ⟨connection.db.tables, connection.lastInsertRowid⟩ rfl
  cases step with
  | grown => exact ⟨current, rfl⟩
  | opened answers pubKey reads =>
    have kept := new_keeps_current current (reads current) pubKey
    unfold Session.file at current ⊢
    rw [kept]
    exact ⟨current, rfl⟩
  | processed numItems =>
    rw [ssbQuery_process_eq]
    exact ⟨current, processing _ _ numItems _⟩
  | cutOff numItems batches => exact ⟨current, processing _ _ numItems batches⟩
  | closed => exact ⟨current, rfl⟩

theorem sessions_sound (starts : iter.StartsAt) {start state : Session} (fresh : start.Fresh)
    (run : Relation.ReflTransGen (SessionStep crates secretKeys iter Spared) start state) :
    state.Sound crates secretKeys := by
  induction run with
  | refl => exact fresh.sound
  | tail _ step ih => exact step.sound starts ih

theorem sessions_keep (starts : iter.StartsAt) {state later : Session}
    (run : Relation.ReflTransGen (SessionStep crates secretKeys iter Reliable) state later) {owner : String}
    (signed : state.log.Signed) (indexes : state.file.Indexes crates secretKeys owner state.log) :
    later.log.Signed ∧ later.file.Indexes crates secretKeys owner later.log ∧
      heldEntries state.file.tables ≤ heldEntries later.file.tables := by
  induction run with
  | refl => exact ⟨signed, indexes, Nat.le_refl _⟩
  | tail _ step ih =>
    obtain ⟨signed', indexes', grown⟩ := ih
    obtain ⟨signed'', indexes'', grown'⟩ := step.keeps starts signed' indexes'
    exact ⟨signed'', indexes'', grown.trans grown'⟩

theorem sessions_indexes (starts : iter.StartsAt) {start state : Session} (fresh : start.Fresh)
    (run : Relation.ReflTransGen (SessionStep crates secretKeys iter Spared) start state)
    (current : state.file.IsCurrent) {owner : String} (mine : state.file.me = [owner]) :
    state.log.Signed ∧ state.file.Indexes crates secretKeys owner state.log := by
  have sound := sessions_sound starts fresh run
  obtain ⟨other, indexes⟩ := sound.indexes current
  obtain rfl : owner = other := List.singleton_inj.mp (mine.symm.trans indexes.initialised.me)
  exact ⟨sound.signed, indexes⟩

end

/-! ### Any sessions -/

/-- In every state that sessions can reach, a file that passes for set up is initialised for one owner
and holds the first entries of the log; reliable sessions keep the owner, and what is held. -/
theorem sessions_safe (starts : iter.StartsAt) {start state : Session} (fresh : start.Fresh)
    (run : Relation.ReflTransGen (SessionStep crates secretKeys iter Spared) start state) :
    state.Sound crates secretKeys ∧
      ∀ owner, state.file.Indexes crates secretKeys owner state.log →
        ∀ later, Relation.ReflTransGen (SessionStep crates secretKeys iter Reliable) state later →
          later.file.Indexes crates secretKeys owner later.log ∧
            heldEntries state.file.tables ≤ heldEntries later.file.tables := by
  have sound := sessions_sound starts fresh run
  refine ⟨sound, fun owner indexes later after => ?_⟩
  exact (sessions_keep starts after sound.signed indexes).2

/-- Whoever is me when a file first passes for set up stays so in all later sessions, whatever public keys
they name; if that is nobody, nobody will be. -/
theorem me_settled {state later : Session} (current : state.file.IsCurrent)
    (run : Relation.ReflTransGen (SessionStep crates secretKeys iter ReadsVersion) state later) :
    later.file.IsCurrent ∧ later.file.me = state.file.me := by
  induction run with
  | refl => exact ⟨current, rfl⟩
  | tail _ step ih =>
    obtain ⟨current', same⟩ := ih
    obtain ⟨current'', same'⟩ := step.keeps_me current'
    exact ⟨current'', same'.trans same⟩

/-! Two posts, and a first session on them. -/

def openedConnection : Connection DbFile := ((SsbQuery.new .allRun "@me").run ⟨.empty, 0⟩).state

def indexedConnection : Connection DbFile :=
  ((SsbQuery.process logCrates [()] iterFrom postLog (-1)).run openedConnection).state

def freshPosts : Session := ⟨postLog, ⟨.empty, 0⟩, false⟩

def openedPosts : Session := ⟨postLog, openedConnection, true⟩

def indexedPosts : Session := ⟨postLog, indexedConnection, true⟩

theorem freshPosts_fresh : freshPosts.Fresh :=
  ⟨(by decide : postLog.Signed), DbFile.Unversioned.not_current rfl, rfl⟩

theorem openedPosts_reached :
    Relation.ReflTransGen (SessionStep logCrates [()] iterFrom Spared) freshPosts openedPosts := by
  have opens : SessionStep logCrates [()] iterFrom Spared freshPosts ⟨postLog, openedConnection,
      ((SsbQuery.new .allRun "@me").run ⟨.empty, 0⟩).outcome.isOk⟩ :=
    .opened .allRun "@me" fun _ => finishesSetup_allRun
  have returned : ((SsbQuery.new .allRun "@me").run ⟨.empty, 0⟩).outcome.isOk = true := by decide +kernel
  rw [returned] at opens
  exact .single opens

theorem indexedPosts_reached :
    Relation.ReflTransGen (SessionStep logCrates [()] iterFrom Spared) freshPosts indexedPosts := by
  have processes : SessionStep logCrates [()] iterFrom Spared openedPosts ⟨postLog, indexedConnection,
      ((SsbQuery.process logCrates [()] iterFrom postLog (-1)).run openedConnection).outcome.isOk⟩ := .processed (-1)
  have returned : ((SsbQuery.process logCrates [()] iterFrom postLog (-1)).run openedConnection).outcome.isOk =
      true := by
    decide +kernel
  rw [returned] at processes
  exact openedPosts_reached.tail processes

theorem openedPosts_mine : openedPosts.file.IsCurrent ∧ openedPosts.file.me = ["@me"] := by
  decide +kernel

theorem indexedPosts_mine : indexedPosts.file.IsCurrent ∧ indexedPosts.file.me = ["@me"] := by
  decide +kernel

/-- A set-up that was cut off before the author that is me. -/
def cutConnection : Connection DbFile := connectionAfterCalls "@me" [crashBehindVersion]

def cutSetup : Session := ⟨postLog, cutConnection, false⟩

def behindCut : Session :=
  ⟨postLog, ((SsbQuery.new .allRun "@me").run cutConnection).state,
    ((SsbQuery.new .allRun "@me").run cutConnection).outcome.isOk⟩

theorem me_settled_nobody : behindCut.file.IsCurrent ∧ behindCut.file.me = cutSetup.file.me :=
  me_settled logCrates [()] iterFrom (by decide +kernel) (.single (.opened .allRun "@me" fun _ => nofun))

example : behindCut.file.me = [] := by decide +kernel

theorem sessions_safe_posts : indexedPosts.Sound logCrates [()] ∧
    ∀ owner, indexedPosts.file.Indexes logCrates [()] owner indexedPosts.log →
      ∀ later, Relation.ReflTransGen (SessionStep logCrates [()] iterFrom Reliable) indexedPosts later →
        later.file.Indexes logCrates [()] owner later.log ∧
          heldEntries indexedPosts.file.tables ≤ heldEntries later.file.tables :=
  sessions_safe logCrates [()] iterFrom iterFrom_startsAt freshPosts_fresh indexedPosts_reached

/-- Two files that were fed from one log for one owner with the same secret keys: the tables of one are a
beginning of the other's, and they are equal if equally many entries are held. -/
theorem replicas_agree (starts : iter.StartsAt) {start state start' state' : Session} (fresh : start.Fresh)
    (run : Relation.ReflTransGen (SessionStep crates secretKeys iter Spared) start state) (fresh' : start'.Fresh)
    (run' : Relation.ReflTransGen (SessionStep crates secretKeys iter Spared) start' state')
    (shared : state.log.entries <+: state'.log.entries) (current : state.file.IsCurrent)
    (current' : state'.file.IsCurrent) (me : state.file.me = state'.file.me) :
    (heldEntries state.file.tables ≤ heldEntries state'.file.tables →
        state.file.tables.Begins state'.file.tables) ∧
      (heldEntries state'.file.tables ≤ heldEntries state.file.tables →
        state'.file.tables.Begins state.file.tables) ∧
      (heldEntries state.file.tables = heldEntries state'.file.tables → state.file.tables = state'.file.tables) := by
  obtain ⟨owner, indexes⟩ := (sessions_sound starts fresh run).indexes current
  obtain ⟨signed, indexes'⟩ := sessions_indexes starts fresh' run' current' (me.symm.trans indexes.initialised.me)
  have holds := indexes.indexed.holds
  have holds' := indexes'.indexed.holds
  -- Both hold a beginning of the longer log.
  have taken : state.log.entries.take (heldEntries state.file.tables) =
      state'.log.entries.take (heldEntries state.file.tables) := by
    rw [List.prefix_iff_eq_take.mp shared, List.take_take, Nat.min_eq_left indexes.indexed.bound]
  rw [taken] at holds
  refine ⟨fun fewer => ?_, fun fewer => ?_, fun same => ?_⟩
  · exact holds.begins signed (List.take_prefix_take_left fewer) holds' (List.take_prefix _ _)
  · exact holds'.begins signed (List.take_prefix_take_left fewer) holds (List.take_prefix _ _)
  · rw [same] at holds
    exact holds.unique holds'

theorem replicas_agree_posts :
    (heldEntries openedPosts.file.tables ≤ heldEntries indexedPosts.file.tables →
        openedPosts.file.tables.Begins indexedPosts.file.tables) ∧
      (heldEntries indexedPosts.file.tables ≤ heldEntries openedPosts.file.tables →
        indexedPosts.file.tables.Begins openedPosts.file.tables) ∧
      (heldEntries openedPosts.file.tables = heldEntries indexedPosts.file.tables →
        openedPosts.file.tables = indexedPosts.file.tables) := by
  have shared : postLog.entries <+: postLog.entries := List.prefix_rfl
  exact replicas_agree logCrates [()] iterFrom iterFrom_startsAt freshPosts_fresh openedPosts_reached freshPosts_fresh
    indexedPosts_reached shared openedPosts_mine.1 indexedPosts_mine.1
    (openedPosts_mine.2.trans indexedPosts_mine.2.symm)

end FlumeViewSql

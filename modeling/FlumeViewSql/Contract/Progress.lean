import FlumeViewSql.Contract.Refinement
import FlumeViewSql.Contract.Sessions
import FlumeViewSql.Index.Machine

/-! How far one call of `process` gets in a log that may hold entries which cannot be appended.

A batch of 1000 is lost as a whole, so a call that stops has appended the full batches in front of
the first such entry, and a call for fewer entries gets closer to it.
-/

set_option autoImplicit false

namespace FlumeViewSql

open Execution Relational

variable {SecretKey : Type} (crates : Crates SecretKey) (secretKeys : List SecretKey) (owner : String)

/-- How many entries of the log can be appended, before the first one that cannot. -/
def Log.appendable (log : Log) : Nat := (recording crates secretKeys).acceptCount log.entries (.created owner)

/-- How many entries one call reads. A single entry that is held looks like none. -/
def entriesRead (log : Log) (numItems : Int64) (held : Nat) : Nat :=
  min (itemsToTake numItems) (log.entries.length - if held = 1 then 0 else held)

/-- How many of them can be appended. -/
def entriesFitting (log : Log) (held : Nat) : Nat :=
  if held = 1 then 0 else log.appendable crates secretKeys owner - held

theorem appends_follow (items : List (Sequence × Bytes)) :
    Action.Ends (Action.forEach items fun item => append crates secretKeys item.1 item.2) (created owner)
      (fun _ after => ∃ facts, (recording crates secretKeys).acceptAll items (.created owner) = some facts ∧
        Represents after.db facts)
      (fun _ => (recording crates secretKeys).acceptAll items (.created owner) = none) := by
  have started : Tells (created owner) (.created owner) := represents_created owner
  exact (appendItem_simulates crates secretKeys).forEach items started

variable {crates secretKeys owner} {log : Log}

theorem holds_iff_accepts {items : List (Sequence × Bytes)} : (∃ db, Holds crates secretKeys owner items db) ↔
    ((recording crates secretKeys).acceptAll items (.created owner)).isSome := by
  have ends := appends_follow crates secretKeys owner items
  constructor
  · intro ⟨db, last, ran⟩
    obtain ⟨facts, accepts, -⟩ := ends.ok ran
    rw [accepts]
    rfl
  · intro accepted
    rcases Action.run_cases (Action.forEach items fun item => append crates secretKeys item.1 item.2)
      (created owner) with ⟨_, after, ended⟩ | ⟨why, after, ended⟩
    · exact ⟨after.db, after.lastInsertRowid, ended⟩
    · rw [ends.error ended] at accepted
      cases accepted

theorem holds_take_iff {count : Nat} (bound : count ≤ log.entries.length) :
    (∃ db, Holds crates secretKeys owner (log.entries.take count) db) ↔
      count ≤ log.appendable crates secretKeys owner :=
  holds_iff_accepts.trans (Machine.acceptAll_take_isSome_iff bound)

theorem stuck_take_iff (signed : log.Signed) {held : Nat} (bound : held ≤ log.entries.length) :
    Stuck (log.entries.take held) ↔ held = 1 := by
  constructor
  · rintro ⟨last, isLast, zero | large⟩
    · cases parts : log.entries with
      | nil => simp [parts] at isLast
      | cons first rest =>
        have increasing := log.increasing
        rw [parts] at isLast bound increasing
        rw [List.length_cons] at bound
        cases held with
        | zero => simp at isLast
        | succ count =>
          cases count with
          | zero => rfl
          | succ count =>
            -- The last entry held stands behind the first one, so its offset is not 0.
            have present : rest.take (count + 1) ≠ [] := by
              apply List.ne_nil_of_length_pos
              rw [List.length_take]
              omega
            rw [List.take_succ_cons, List.getLast?_cons, List.getLast?_eq_some_getLast present] at isLast
            have member : last ∈ rest := by
              cases isLast
              exact List.mem_of_mem_take (List.getLast_mem present)
            have later := (List.pairwise_cons.mp increasing).1 last member
            rw [zero] at later
            exact absurd later (UInt64.not_lt.mpr UInt64.zero_le)
    · have member := List.mem_of_getLast? isLast
      have small := signed last (List.mem_of_mem_take member)
      omega
  · rintro rfl
    obtain ⟨first, rest, parts⟩ := List.exists_cons_of_length_pos (Nat.lt_of_lt_of_le Nat.zero_lt_one bound)
    refine ⟨first, by rw [parts]; rfl, .inl (log.fromZero first ?_)⟩
    rw [parts]
    rfl

section
variable {iter : OffsetLogIter} {connection : Connection Db} {held : Nat}

theorem Holds.process_ends (starts : iter.StartsAt) (bound : held ≤ log.entries.length)
    (holds : Holds crates secretKeys owner (log.entries.take held) connection.db)
    (free : ¬ Stuck (log.entries.take held)) (numItems : Int64) :
    Action.Ends (process crates secretKeys iter log numItems) connection
      (fun _ after => min (itemsToTake numItems) (log.entries.length - held) ≤
          log.appendable crates secretKeys owner - held ∧
        Holds crates secretKeys owner
          (log.entries.take (held + min (itemsToTake numItems) (log.entries.length - held))) after.db)
      (fun after => log.appendable crates secretKeys owner - held <
          min (itemsToTake numItems) (log.entries.length - held) ∧
        Holds crates secretKeys owner
          (log.entries.take (held + (log.appendable crates secretKeys owner - held) / 1000 * 1000)) after.db) := by
  obtain ⟨resumed, items, ⟨-, rfl⟩ | ⟨stuck, -⟩⟩ := holds.resume starts (List.take_append_drop held log.entries).symm
  · have within : held ≤ log.appendable crates secretKeys owner := (holds_take_iff bound).mp ⟨_, holds⟩
    have counted : ((log.entries.drop held).take (itemsToTake numItems)).length =
        min (itemsToTake numItems) (log.entries.length - held) := by
      rw [List.length_take, List.length_drop]
    apply Action.Ends.of_run_eq ((process_run crates secretKeys iter log numItems connection).trans (by rw [items]))
    rw [← counted]
    apply Action.Ends.forEach_chunks (by decide : 0 < 1000) fun done (now : Connection Db) =>
      Holds crates secretKeys owner (log.entries.take (held + done)) now.db
    · exact holds
    · intro done batch now fits begins reached
      -- What a batch adds is the next part of the log.
      have next : batch <+: log.entries.drop (held + done) := by
        rw [← List.drop_drop]
        exact begins.trans ((List.take_prefix _ _).drop done)
      have longer : log.entries.take (held + done) ++ batch = log.entries.take (held + done + batch.length) := by
        rw [List.take_add (i := held + done), ← List.prefix_iff_eq_take.mp next]
      have room : held + done + batch.length ≤ log.entries.length := by
        rw [counted] at fits
        omega
      apply (reached.appendBatch_ends batch).mono
      · intro _ after holds'
        rw [longer] at holds'
        have fits := (holds_take_iff room).mp ⟨_, holds'⟩
        exact ⟨by omega, by rwa [← Nat.add_assoc]⟩
      · intro after ⟨same, impossible⟩
        rw [longer] at impossible
        have beyond : ¬ held + done + batch.length ≤ log.appendable crates secretKeys owner := by
          intro fits
          obtain ⟨db, possible⟩ := (holds_take_iff room).mpr fits
          exact impossible db possible
        exact ⟨by omega, same ▸ reached⟩
  · exact absurd stuck free

theorem process_counts (starts : iter.StartsAt) (signed : log.Signed) (bound : held ≤ log.entries.length)
    (holds : Holds crates secretKeys owner (log.entries.take held) connection.db) (numItems : Int64) :
    Action.Ends (process crates secretKeys iter log numItems) connection
      (fun _ after => entriesRead log numItems held ≤ entriesFitting crates secretKeys owner log held ∧
        heldEntries after.db = held + entriesRead log numItems held)
      (fun after => ¬ entriesRead log numItems held ≤ entriesFitting crates secretKeys owner log held ∧
        heldEntries after.db = held + entriesFitting crates secretKeys owner log held / 1000 * 1000) := by
  have fits : log.appendable crates secretKeys owner ≤ log.entries.length := Machine.acceptCount_le _ _
  have within : held ≤ log.appendable crates secretKeys owner := (holds_take_iff bound).mp ⟨_, holds⟩
  unfold entriesRead entriesFitting
  by_cases single : held = 1
  · rw [if_pos single, if_pos single]
    have kept : heldEntries connection.db = held := by
      rw [holds.heldEntries, List.length_take, Nat.min_eq_left bound]
    by_cases none : itemsToTake numItems = 0
    · apply Action.Ends.of_ok (process_none none)
      rw [none, kept]
      simp
    · have stuck := (stuck_take_iff signed bound).mpr single
      apply (holds.process_stuck starts (List.take_append_drop held log.entries).symm stuck none).mono
      · exact fun _ _ => False.elim
      · intro after same
        rw [same, kept]
        omega
  · rw [if_neg single, if_neg single]
    have free := fun stuck => single ((stuck_take_iff signed bound).mp stuck)
    apply (holds.process_ends starts bound free numItems).mono
    · intro _ after ⟨all, reached⟩
      rw [reached.heldEntries, List.length_take]
      omega
    · intro after ⟨beyond, reached⟩
      rw [reached.heldEntries, List.length_take]
      omega

theorem ssbQuery_process_counts (starts : iter.StartsAt) (signed : log.Signed)
    {connection : Connection DbFile} (indexes : connection.db.Indexes crates secretKeys owner log) (numItems : Int64) :
    (((SsbQuery.process crates secretKeys iter log numItems).run connection).outcome = .ok () ↔
      entriesRead log numItems (heldEntries connection.db.tables) ≤
        entriesFitting crates secretKeys owner log (heldEntries connection.db.tables)) ∧
    heldEntries ((SsbQuery.process crates secretKeys iter log numItems).run connection).state.db.tables =
      heldEntries connection.db.tables +
        if entriesRead log numItems (heldEntries connection.db.tables) ≤
            entriesFitting crates secretKeys owner log (heldEntries connection.db.tables)
        then entriesRead log numItems (heldEntries connection.db.tables)
        else entriesFitting crates secretKeys owner log (heldEntries connection.db.tables) / 1000 * 1000 := by
  have holds : Holds crates secretKeys owner (log.entries.take (heldEntries connection.db.tables))
      (Connection.mk connection.db.tables connection.lastInsertRowid).db := indexes.indexed.holds
  have ends := onTables_ends (process_counts starts signed indexes.indexed.bound holds numItems)
  rcases Action.run_cases (SsbQuery.process crates secretKeys iter log numItems) connection with
    ⟨_, after, ended⟩ | ⟨why, after, ended⟩
  · obtain ⟨now, ⟨fits, held⟩, file⟩ := ends.ok ended
    rw [ended, file, if_pos fits]
    exact ⟨iff_of_true rfl fits, held⟩
  · obtain ⟨now, ⟨beyond, held⟩, file⟩ := ends.error ended
    rw [ended, file, if_neg beyond]
    exact ⟨iff_of_false (by simp) beyond, held⟩

end

theorem reads_all_iff {held : Nat} (bound : held ≤ log.entries.length)
    (within : held ≤ log.appendable crates secretKeys owner) :
    (held + if entriesRead log (-1) held ≤ entriesFitting crates secretKeys owner log held
        then entriesRead log (-1) held else entriesFitting crates secretKeys owner log held / 1000 * 1000) =
      log.entries.length ↔
    log.appendable crates secretKeys owner = log.entries.length ∧ (held = 1 → log.entries.length = 1) := by
  have fits : log.appendable crates secretKeys owner ≤ log.entries.length := Machine.acceptCount_le _ _
  have fewer := log.fewer
  have all : itemsToTake (-1) = 2 ^ 64 - 1 := by rw [itemsToTake, if_pos rfl]
  unfold entriesRead entriesFitting
  rw [all]
  by_cases single : held = 1
  · rw [if_pos single, if_pos single]
    split <;> omega
  · rw [if_neg single, if_neg single]
    split <;> omega

/-! ### Sessions -/

theorem Log.latest_lt (log : Log) {held : Nat} (behind : held < log.entries.length) (more : 1 < log.entries.length) :
    (((log.entries.take held).getLast?.map Prod.fst).getD 0) < (log.entries.getLast?.map Prod.fst).getD 0 := by
  have increasing := log.increasing
  rcases log.entries.eq_nil_or_concat with empty | ⟨init, last, parts⟩
  · simp [empty] at more
  · rw [List.concat_eq_append] at parts
    rw [parts] at behind more increasing ⊢
    rw [List.length_append, List.length_singleton] at behind more
    have before : ∀ entry ∈ init, entry.1 < last.1 := by
      intro entry member
      exact (List.pairwise_append.mp increasing).2.2 entry member last (List.mem_singleton_self last)
    rw [List.getLast?_concat, Option.map_some, Option.getD_some, List.take_append_of_le_length (by omega)]
    cases found : (init.take held).getLast? with
    | some entry => exact before entry (List.mem_of_mem_take (List.mem_of_getLast? found))
    | none =>
      obtain ⟨first, rest, nonempty⟩ := List.exists_cons_of_length_pos (by omega : 0 < init.length)
      exact UInt64.lt_of_le_of_lt UInt64.zero_le (before first (by simp [nonempty]))

theorem Log.latest_short (log : Log) (short : log.entries.length ≤ 1) (held : Nat) :
    ((log.entries.take held).getLast?.map Prod.fst).getD 0 = (log.entries.getLast?.map Prod.fst).getD 0 := by
  have zero := log.fromZero
  cases parts : log.entries with
  | nil => rw [List.take_nil]
  | cons first rest =>
    rw [parts] at short zero
    obtain rfl : rest = [] := by
      rw [List.length_cons] at short
      exact List.length_eq_zero_iff.mp (by omega)
    have offset : first.1 = 0 := zero first rfl
    cases held with
    | zero => simp [offset]
    | succ count => simp

variable (crates secretKeys) (iter : OffsetLogIter)

theorem latest_caught_up_iff (starts : iter.StartsAt) {start state : Session} (fresh : start.Fresh)
    (run : Relation.ReflTransGen (SessionStep crates secretKeys iter Spared) start state)
    (current : state.file.IsCurrent) :
    SsbQuery.getLatest state.file = (state.log.entries.getLast?.map Prod.fst).getD 0 ↔
      heldEntries state.file.tables = state.log.entries.length ∨ state.log.entries.length ≤ 1 := by
  obtain ⟨owner, indexes⟩ := (sessions_sound starts fresh run).indexes current
  have latest := indexes.indexed.latest
  have bound := indexes.indexed.bound
  rw [show SsbQuery.getLatest state.file = getLatest state.file.tables from rfl, latest]
  constructor
  · intro same
    by_contra behind
    have beyond : heldEntries state.file.tables < state.log.entries.length ∧ 1 < state.log.entries.length := by omega
    exact (UInt64.ne_of_lt (state.log.latest_lt beyond.1 beyond.2)) same
  · rintro (all | short)
    · rw [all, List.take_length]
    · exact state.log.latest_short short _

theorem latest_caught_up_iff_posts :
    SsbQuery.getLatest indexedPosts.file = (indexedPosts.log.entries.getLast?.map Prod.fst).getD 0 ↔
      heldEntries indexedPosts.file.tables = indexedPosts.log.entries.length ∨ indexedPosts.log.entries.length ≤ 1 :=
  latest_caught_up_iff logCrates [()] iterFrom iterFrom_startsAt freshPosts_fresh indexedPosts_reached
    indexedPosts_mine.1

theorem sessions_show (starts : iter.StartsAt) {start state : Session} (fresh : start.Fresh)
    (run : Relation.ReflTransGen (SessionStep crates secretKeys iter Spared) start state)
    (current : state.file.IsCurrent) (mine : state.file.me = [owner]) :
    ∃ history : List Stored,
      (state.log.entries.take (heldEntries state.file.tables)).map (Stored.read crates secretKeys) = history.map some ∧
        Storable history ∧
        state.file.tables.shown = (history.foldl (Facts.index crates) (.created owner)).shown := by
  obtain ⟨-, -, -, indexed⟩ := sessions_indexes starts fresh run current mine
  obtain ⟨last, ran⟩ := indexed.holds
  obtain ⟨facts, accepts, represents⟩ := (appends_follow crates secretKeys owner _).ok ran
  obtain ⟨history, reads, storable, rfl⟩ := acceptAll_created_iff.mp accepts
  exact ⟨history, reads, storable, represents.shown⟩

theorem sessions_show_posts :
    ∃ history : List Stored,
      (indexedPosts.log.entries.take (heldEntries indexedPosts.file.tables)).map (Stored.read logCrates [()]) =
          history.map some ∧
        Storable history ∧
        indexedPosts.file.tables.shown = (history.foldl (Facts.index logCrates) (.created "@me")).shown :=
  sessions_show logCrates [()] iterFrom iterFrom_startsAt freshPosts_fresh indexedPosts_reached indexedPosts_mine.1
    indexedPosts_mine.2

theorem process_exact (starts : iter.StartsAt) {start state : Session} (fresh : start.Fresh)
    (run : Relation.ReflTransGen (SessionStep crates secretKeys iter Spared) start state)
    (current : state.file.IsCurrent) (mine : state.file.me = [owner]) (numItems : Int64) :
    (((SsbQuery.process crates secretKeys iter state.log numItems).run state.connection).outcome = .ok () ↔
      entriesRead state.log numItems (heldEntries state.file.tables) ≤
        entriesFitting crates secretKeys owner state.log (heldEntries state.file.tables)) ∧
    heldEntries ((SsbQuery.process crates secretKeys iter state.log numItems).run state.connection).state.db.tables =
      heldEntries state.file.tables +
        if entriesRead state.log numItems (heldEntries state.file.tables) ≤
            entriesFitting crates secretKeys owner state.log (heldEntries state.file.tables)
        then entriesRead state.log numItems (heldEntries state.file.tables)
        else entriesFitting crates secretKeys owner state.log (heldEntries state.file.tables) / 1000 * 1000 := by
  obtain ⟨signed, indexes⟩ := sessions_indexes starts fresh run current mine
  exact ssbQuery_process_counts starts signed indexes numItems

theorem process_exact_posts :
    (((SsbQuery.process logCrates [()] iterFrom openedPosts.log 1).run openedPosts.connection).outcome = .ok () ↔
      entriesRead openedPosts.log 1 (heldEntries openedPosts.file.tables) ≤
        entriesFitting logCrates [()] "@me" openedPosts.log (heldEntries openedPosts.file.tables)) ∧
    heldEntries
        ((SsbQuery.process logCrates [()] iterFrom openedPosts.log 1).run openedPosts.connection).state.db.tables =
      heldEntries openedPosts.file.tables +
        if entriesRead openedPosts.log 1 (heldEntries openedPosts.file.tables) ≤
            entriesFitting logCrates [()] "@me" openedPosts.log (heldEntries openedPosts.file.tables)
        then entriesRead openedPosts.log 1 (heldEntries openedPosts.file.tables)
        else entriesFitting logCrates [()] "@me" openedPosts.log (heldEntries openedPosts.file.tables) / 1000 * 1000 :=
  process_exact logCrates [()] iterFrom iterFrom_startsAt freshPosts_fresh openedPosts_reached openedPosts_mine.1
    openedPosts_mine.2 1

/-- The session that follows on any other: the view is opened again, undisturbed, … -/
def Session.reopened (session : Session) (pubKey : String) : Connection DbFile :=
  ((SsbQuery.new .allRun pubKey).run session.connection).state

/-- … and asked for the whole log. -/
def Session.caughtUp (session : Session) (pubKey : String) : Connection DbFile :=
  ((SsbQuery.process crates secretKeys iter session.log (-1)).run (session.reopened pubKey)).state

theorem sessions_recover (starts : iter.StartsAt) {start state : Session} (fresh : start.Fresh)
    (run : Relation.ReflTransGen (SessionStep crates secretKeys iter Spared) start state) (pubKey : String) :
    ∃ owner, (state.reopened pubKey).db.Indexes crates secretKeys owner state.log ∧
      (state.caughtUp crates secretKeys iter pubKey).db.Indexes crates secretKeys owner state.log ∧
      (heldEntries (state.caughtUp crates secretKeys iter pubKey).db.tables = state.log.entries.length ↔
        state.log.appendable crates secretKeys owner = state.log.entries.length ∧
          (heldEntries (state.reopened pubKey).db.tables = 1 → state.log.entries.length = 1)) := by
  obtain ⟨log, connection, isOpen⟩ := state
  have returned : ((SsbQuery.new .allRun pubKey).run connection).outcome.isOk = true := by
    obtain ⟨last, ended⟩ := new_allRun pubKey connection
    rw [SsbQuery.new, ended]
    rfl
  have spared : Spared connection.db .allRun := fun _ => finishesSetup_allRun
  have opens : SessionStep crates secretKeys iter Spared ⟨log, connection, false⟩
      ⟨log, ((SsbQuery.new .allRun pubKey).run connection).state,
        ((SsbQuery.new .allRun pubKey).run connection).outcome.isOk⟩ := .opened .allRun pubKey spared
  rw [returned] at opens
  have reopened := (run.tail .closed).tail opens
  have current := new_returns_current returned
  obtain ⟨owner, indexes⟩ := (sessions_sound starts fresh reopened).indexes current
  have signed := (sessions_sound starts fresh reopened).signed
  obtain ⟨-, held⟩ := ssbQuery_process_counts starts signed indexes (-1)
  refine ⟨owner, indexes, ?_, ?_⟩
  · unfold Session.caughtUp
    rw [ssbQuery_process_eq]
    exact (indexes.processUntil starts signed (-1) _).1
  · have bound := indexes.indexed.bound
    have within := (holds_take_iff bound).mp ⟨_, indexes.indexed.holds⟩
    exact (Eq.congr_left held).trans (reads_all_iff bound within)

theorem sessions_recover_posts :
    ∃ owner, (openedPosts.reopened "@other").db.Indexes logCrates [()] owner postLog ∧
      (openedPosts.caughtUp logCrates [()] iterFrom "@other").db.Indexes logCrates [()] owner postLog ∧
      (heldEntries (openedPosts.caughtUp logCrates [()] iterFrom "@other").db.tables = postLog.entries.length ↔
        postLog.appendable logCrates [()] owner = postLog.entries.length ∧
          (heldEntries (openedPosts.reopened "@other").db.tables = 1 → postLog.entries.length = 1)) :=
  sessions_recover logCrates [()] iterFrom iterFrom_startsAt freshPosts_fresh openedPosts_reached "@other"

end FlumeViewSql

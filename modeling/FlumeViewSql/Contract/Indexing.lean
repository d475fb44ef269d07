import FlumeViewSql.Contract.Messages
import FlumeViewSql.Index.Resuming
import Mathlib.Logic.Relation

/-! Indexing a log by calls of `process`: what holds after any calls, however they end, and when
calls on parts of the log add up to one call on the whole.
-/

set_option autoImplicit false

namespace FlumeViewSql

open Execution Relational

variable {SecretKey : Type} (crates : Crates SecretKey) (secretKeys : List SecretKey) (pubKey : String)
  (iter : OffsetLogIter)

/-! ### Any calls -/

/-- Every offset is also an `i64`. -/
def Log.Signed (log : Log) : Prop := ∀ entry ∈ log.entries, entry.1.toNat < 2 ^ 63

instance (log : Log) : Decidable log.Signed := inferInstanceAs (Decidable (∀ entry ∈ log.entries, _))

/-- The log gets longer, or a call of `process` returns, stops, or is cut off between two batches
or inside one, which then is rolled back. -/
inductive Step : Log × Connection Db → Log × Connection Db → Prop
  | grown {log log' : Log} {connection : Connection Db} : log.entries <+: log'.entries → log'.Signed →
      Step (log, connection) (log', connection)
  | processed {log : Log} {connection : Connection Db} (numItems : Int64) :
      Step (log, connection) (log, ((process crates secretKeys iter log numItems).run connection).state)
  | cutOff {log : Log} {connection : Connection Db} (numItems : Int64) (batches : Nat) :
      Step (log, connection) (log, ((processUntil crates secretKeys iter log numItems batches).run connection).state)

def heldEntries (db : Db) : Nat := db.messagesRaw.rows.length

/-- The database is the one that appending its first entries to a new view gives. -/
structure IndexesPrefix (log : Log) (db : Db) : Prop where
  bound : heldEntries db ≤ log.entries.length
  holds : Holds crates secretKeys pubKey (log.entries.take (heldEntries db)) db
  latest : getLatest db = ((log.entries.take (heldEntries db)).getLast?.map Prod.fst).getD 0

section
variable {crates secretKeys pubKey iter}

theorem Holds.heldEntries {held : List (Sequence × Bytes)} {db : Db} (holds : Holds crates secretKeys pubKey held db) :
    heldEntries db = held.length := by
  have lengths := holds.flumeSeqs.length_eq
  rwa [List.length_map, List.length_map] at lengths

theorem Holds.getLatest_signed {log : Log} (signed : log.Signed) {held : List (Sequence × Bytes)} {db : Db}
    (holds : Holds crates secretKeys pubKey held db) (beginning : held <+: log.entries) :
    getLatest db = (held.getLast?.map Prod.fst).getD 0 := by
  by_cases empty : held = []
  · subst empty
    exact holds.getLatest_nil
  · have increasing := log.increasing.sublist beginning.sublist
    have fromZero : ∀ first ∈ held.head?, first.1 = 0 := by
      intro first member
      obtain ⟨rest, parts⟩ := beginning
      apply log.fromZero
      rw [← parts, List.head?_append_of_ne_nil held empty]
      exact member
    obtain ⟨before, entry, behind, split, largest, -, negative⟩ := exists_largest increasing fromZero empty
    -- Below 2 ^ 63 no offset is negative, so the largest one is the last.
    have final : behind = [] := by
      by_contra more
      obtain ⟨last, isLast, large⟩ := negative more
      have small := signed last (beginning.subset (List.mem_of_getLast? isLast))
      omega
    rw [holds.getLatest_of_largest largest, split, final, List.getLast?_concat]
    rfl

theorem indexesPrefix_of_holds {log : Log} (signed : log.Signed) {held : List (Sequence × Bytes)} {db : Db}
    (holds : Holds crates secretKeys pubKey held db) (beginning : held <+: log.entries) :
    IndexesPrefix crates secretKeys pubKey log db := by
  have taken : log.entries.take (FlumeViewSql.heldEntries db) = held := by
    rw [holds.heldEntries, ← List.prefix_iff_eq_take.mp beginning]
  refine ⟨?_, ?_, ?_⟩
  · rw [holds.heldEntries]
    exact beginning.length_le
  · rwa [taken]
  · rw [taken]
    exact holds.getLatest_signed signed beginning

theorem Step.holds (starts : iter.StartsAt) {state state' : Log × Connection Db}
    (step : Step crates secretKeys iter state state') (signed : state.1.Signed) {held : List (Sequence × Bytes)}
    (beginning : held <+: state.1.entries) (holds : Holds crates secretKeys pubKey held state.2.db) :
    state'.1.Signed ∧ ∃ held', held <+: held' ∧ held' <+: state'.1.entries ∧
      Holds crates secretKeys pubKey held' state'.2.db := by
  cases step with
  | grown grows signed' => exact ⟨signed', held, List.prefix_rfl, beginning.trans grows, holds⟩
  | processed numItems =>
    obtain ⟨rest, parts⟩ := beginning
    obtain ⟨more, within, reached⟩ := holds.processUntil_state starts parts.symm numItems _
    rw [← process_eq_processUntil] at reached
    exact ⟨signed, held ++ more, List.prefix_append held more, parts ▸ (List.prefix_append_right_inj held).mpr within,
      reached⟩
  | cutOff numItems batches =>
    obtain ⟨rest, parts⟩ := beginning
    obtain ⟨more, within, reached⟩ := holds.processUntil_state starts parts.symm numItems batches
    exact ⟨signed, held ++ more, List.prefix_append held more, parts ▸ (List.prefix_append_right_inj held).mpr within,
      reached⟩

theorem run_holds (starts : iter.StartsAt) {state state' : Log × Connection Db}
    (run : Relation.ReflTransGen (Step crates secretKeys iter) state state') (signed : state.1.Signed)
    {held : List (Sequence × Bytes)} (beginning : held <+: state.1.entries)
    (holds : Holds crates secretKeys pubKey held state.2.db) :
    state'.1.Signed ∧ ∃ held', held <+: held' ∧ held' <+: state'.1.entries ∧
      Holds crates secretKeys pubKey held' state'.2.db := by
  induction run with
  | refl => exact ⟨signed, held, List.prefix_rfl, beginning, holds⟩
  | tail _ step ih =>
    obtain ⟨signed', held', grown, beginning', holds'⟩ := ih
    obtain ⟨signed'', held'', grown', beginning'', holds''⟩ := step.holds starts signed' beginning' holds'
    exact ⟨signed'', held'', grown.trans grown', beginning'', holds''⟩

end

theorem process_indexes_prefix (starts : iter.StartsAt) {log : Log} (signed : log.Signed)
    {state : Log × Connection Db}
    (run : Relation.ReflTransGen (Step crates secretKeys iter) (log, created pubKey) state) :
    IndexesPrefix crates secretKeys pubKey state.1 state.2.db ∧
      ∀ later, Relation.ReflTransGen (Step crates secretKeys iter) state later →
        heldEntries state.2.db ≤ heldEntries later.2.db := by
  obtain ⟨signed', held, -, beginning, holds⟩ := run_holds starts run signed List.nil_prefix holds_nil
  refine ⟨indexesPrefix_of_holds signed' holds beginning, fun later more => ?_⟩
  obtain ⟨-, held', grown, -, holds'⟩ := run_holds starts more signed' beginning holds
  rw [holds.heldEntries, holds'.heldEntries]
  exact grown.length_le

def logItem (key : String) : Bytes := document key "@b" postText

def logCrates : Crates Unit :=
  .reading [(logItem "%a", documented "%a" "@b" postContent), (logItem "%d", documented "%d" "@b" postContent)]
    fun _ => postText

/-- The second entry stands behind the first and the twelve bytes of its frame. -/
def postLog : Log where
  entries := [(0, logItem "%a"), (115, logItem "%d")]
  increasing := by decide
  fromZero := by decide
  fewer := by decide

/-- An iterator as `OffsetLogIter.StartsAt` describes it, which yields nothing elsewhere. -/
def iterFrom : OffsetLogIter := fun log offset =>
  if offset = 0 ∨ offset ∈ log.entries.map Prod.fst then
    (log.entries.filter fun entry => offset ≤ entry.1).map fun entry => (entry.1 - offset, entry.2)
  else []

theorem iterFrom_startsAt : iterFrom.StartsAt := fun _ _ known => if_pos known

theorem process_indexes_prefix_posts :
    IndexesPrefix logCrates [()] "@me" postLog
        ((process logCrates [()] iterFrom postLog 1).run (created "@me")).state.db ∧
      ∀ later, Relation.ReflTransGen (Step logCrates [()] iterFrom)
          (postLog, ((process logCrates [()] iterFrom postLog 1).run (created "@me")).state) later →
        heldEntries ((process logCrates [()] iterFrom postLog 1).run (created "@me")).state.db ≤
          heldEntries later.2.db :=
  process_indexes_prefix logCrates [()] "@me" iterFrom iterFrom_startsAt (by decide) (.single (.processed 1))

/-! ### Calls on parts of the log -/

/-- How many entries the calls ask for: all, once one of them is -1. -/
def taken (log : Log) (numItems : List Int64) : Nat :=
  if -1 ∈ numItems then log.entries.length
  else min (numItems.map fun number => number.toNatClampNeg).sum log.entries.length

theorem taken_concat {log : Log} {numItems : List Int64} {number : Int64} (allowed : 0 ≤ number ∨ number = -1) :
    taken log (numItems ++ [number]) = min (taken log numItems + itemsToTake number) log.entries.length := by
  have fewer := log.fewer
  unfold taken
  rcases allowed with nonneg | rfl
  · have different : (-1 : Int64) ≠ number := by
      rintro rfl
      exact absurd nonneg (by decide)
    rw [itemsToTake_of_nonneg nonneg]
    by_cases all : -1 ∈ numItems
    · simp [all]
    · simp [all, different]
      omega
  · have whole : itemsToTake (-1) = 2 ^ 64 - 1 := by rw [itemsToTake, if_pos rfl]
    simp only [List.mem_append, List.mem_singleton, or_true, if_true, whole]
    omega

/-- No call asks for entries while the view is stuck. -/
def NeverStuck (log : Log) (numItems : List Int64) : Prop :=
  ∀ before number after, numItems = before ++ number :: after → number ≠ 0 →
    ¬ Stuck (log.entries.take (taken log before))

theorem neverStuck_concat {log : Log} {numItems : List Int64} {number : Int64} :
    NeverStuck log (numItems ++ [number]) ↔
      NeverStuck log numItems ∧ (number ≠ 0 → ¬ Stuck (log.entries.take (taken log numItems))) := by
  constructor
  · intro never
    refine ⟨fun before other after parts => ?_, never numItems number [] rfl⟩
    exact never before other (after ++ [number]) (by rw [parts]; simp)
  · rintro ⟨never, last⟩ before other after parts
    rcases after.eq_nil_or_concat with rfl | ⟨init, final, rfl⟩
    · obtain ⟨rfl, same⟩ := List.append_inj' parts rfl
      cases same
      exact last
    · rw [List.concat_eq_append, ← List.cons_append, ← List.append_assoc] at parts
      obtain ⟨parts', -⟩ := List.append_inj' parts rfl
      exact never before other init parts'

section
variable {crates secretKeys pubKey iter} {log : Log}

theorem calls_ends (starts : iter.StartsAt)
    (appendable : ∀ beginning, beginning <+: log.entries → ∃ db, Holds crates secretKeys pubKey beginning db)
    {numItems : List Int64} (allowed : ∀ number ∈ numItems, 0 ≤ number ∨ number = -1) :
    Action.Ends (Action.forEach numItems (process crates secretKeys iter log)) (created pubKey)
      (fun _ after => NeverStuck log numItems ∧
        Holds crates secretKeys pubKey (log.entries.take (taken log numItems)) after.db)
      (fun _ => ¬ NeverStuck log numItems) := by
  apply Action.Ends.forEach fun seen (now : Connection Db) => NeverStuck log seen ∧
    Holds crates secretKeys pubKey (log.entries.take (taken log seen)) now.db
  · refine ⟨fun before number after parts => ?_, ?_⟩
    · simp at parts
    · have none : taken log [] = 0 := by simp [taken]
      rw [none, List.take_zero]
      exact holds_nil
  · intro seen number rest now parts ⟨never, holds⟩
    have grown : log.entries.take (taken log (seen ++ [number])) = log.entries.take (taken log seen) ++
        (log.entries.drop (taken log seen)).take (itemsToTake number) := by
      rw [taken_concat (allowed number (by simp [parts])), ← List.take_add]
      exact (List.take_eq_take_min ..).symm
    -- A call for nothing returns even on a stuck view.
    by_cases zero : number = 0
    · apply Action.Ends.of_ok (process_none (itemsToTake_eq_zero_iff.mpr zero))
      rw [neverStuck_concat, grown, itemsToTake_eq_zero_iff.mpr zero, List.take_zero, List.append_nil]
      exact ⟨⟨never, fun nonzero => absurd zero nonzero⟩, holds⟩
    · by_cases stuck : Stuck (log.entries.take (taken log seen))
      · apply (holds.process_stuck starts (List.take_append_drop _ _).symm stuck
          (mt itemsToTake_eq_zero_iff.mp zero)).mono
        · exact fun _ _ => False.elim
        · exact fun _ _ never' => never' seen number rest parts zero stuck
      · obtain ⟨after, ended, holds'⟩ :=
          holds.process_returns starts (List.take_append_drop _ _).symm stuck appendable number
        apply Action.Ends.of_ok ended
        rw [neverStuck_concat, grown]
        exact ⟨⟨never, fun _ => stuck⟩, holds'⟩

theorem process_first (starts : iter.StartsAt)
    (appendable : ∀ beginning, beginning <+: log.entries → ∃ db, Holds crates secretKeys pubKey beginning db)
    {number : Int64} (allowed : 0 ≤ number ∨ number = -1) :
    Action.Ends (process crates secretKeys iter log number) (created pubKey)
      (fun _ after => Holds crates secretKeys pubKey (log.entries.take (taken log [number])) after.db)
      fun _ => False := by
  have none : taken log [] = 0 := by simp [taken]
  have counted : taken log [number] = min (itemsToTake number) log.entries.length := by
    rw [← List.nil_append [number], taken_concat allowed, none, Nat.zero_add]
  have free : ¬ Stuck ([] : List (Sequence × Bytes)) := by simp [Stuck]
  have fresh : Holds crates secretKeys pubKey [] (created pubKey).db := holds_nil
  obtain ⟨after, ended, holds⟩ := fresh.process_returns starts (List.nil_append _).symm free appendable number
  apply Action.Ends.of_ok ended
  rw [counted, ← List.take_eq_take_min]
  exact holds

theorem Appended.admits_next {held : List (Sequence × Bytes)} {entry : Sequence × Bytes} {history : List Stored}
    {stored : Stored} {db : Db} (appended : Appended crates secretKeys (.created pubKey) held history db)
    (read : Stored.read crates secretKeys entry = some stored) (within : held ++ [entry] <+: log.entries)
    (distinct : ((log.entries.filterMap (Stored.read crates secretKeys)).map Stored.key).Nodup) :
    (history.foldl (Facts.index crates) (.created pubKey)).Admits stored := by
  rw [Facts.foldl_index]
  constructor
  · intro present
    simp only [Facts.created, List.nil_append, List.map_map, List.mem_map] at present
    obtain ⟨other, member, same⟩ := present
    have listed : entry.1 ∈ held.map Prod.fst := by
      rw [← appended.seqs, ← Stored.read_seq crates secretKeys read, ← asI64_injective same]
      exact List.mem_map_of_mem member
    obtain ⟨earlier, earlierHeld, sameOffset⟩ := List.mem_map.mp listed
    have increasing := log.increasing.sublist within.sublist
    have order := (List.pairwise_append.mp increasing).2.2 earlier earlierHeld entry (List.mem_singleton_self entry)
    rw [sameOffset] at order
    exact UInt64.lt_irrefl _ order
  · intro present
    simp only [Facts.created, List.nil_append, List.map_map, List.mem_map] at present
    obtain ⟨other, member, same⟩ := present
    have reads : held.filterMap (Stored.read crates secretKeys) = history := by
      have read := congrArg (List.filterMap id) appended.read
      rwa [List.filterMap_map, List.filterMap_map, Function.id_comp, Function.id_comp, List.filterMap_some] at read
    have keys := distinct.sublist ((within.sublist.filterMap (Stored.read crates secretKeys)).map Stored.key)
    rw [List.filterMap_append, reads, List.filterMap_cons_some read, List.filterMap_nil, List.map_append] at keys
    exact List.disjoint_of_nodup_append keys (List.mem_map_of_mem member)
      (List.mem_map.mpr ⟨stored, List.mem_singleton_self stored, same.symm⟩)

theorem appendable_of_accepted
    (accepted : ∀ entry ∈ log.entries,
      ((appendItem crates secretKeys entry.1 entry.2).run (created pubKey)).outcome = .ok ())
    (distinct : ((log.entries.filterMap (Stored.read crates secretKeys)).map Stored.key).Nodup)
    (beginning : List (Sequence × Bytes)) (within : beginning <+: log.entries) :
    ∃ db, Holds crates secretKeys pubKey beginning db := by
  induction beginning using List.reverseRecOn with
  | nil => exact ⟨_, holds_nil⟩
  | append_singleton held entry ih =>
    obtain ⟨db, holds⟩ := ih ((List.prefix_append held [entry]).trans within)
    have member : entry ∈ log.entries := within.subset (by simp)
    -- On a fresh view the entry is read, and its branches are strings; that does not change later.
    have started : Represents (created pubKey).db (.created pubKey) := represents_created pubKey
    obtain ⟨stored, read, accepts, -⟩ := (appendItem_ends crates secretKeys started entry).ok
      (Ended.eq_of_outcome (accepted entry member))
    obtain ⟨history, appended⟩ := holds.appended
    have admitted := appended.admits_next read within distinct
    obtain ⟨last, ran⟩ := holds
    have represents : Represents (Connection.mk db last).db _ := appended.represents
    have returns : Action.Ends (append crates secretKeys entry.1 entry.2) ⟨db, last⟩ (fun _ _ => True)
        fun _ => False := by
      apply (appendItem_ends crates secretKeys represents entry).unwrap.mono
      · exact fun _ _ _ => trivial
      · rintro _ (⟨unread, -⟩ | ⟨stored', read', stopped⟩)
        · rw [read] at unread
          cases unread
        · cases read.symm.trans read'
          rcases stopped with ⟨absent, -⟩ | ⟨-, refused, -⟩
          · exact accepts.1 absent
          · exact refused admitted
    obtain ⟨_, after, ended, -⟩ := returns.returns
    refine ⟨after.db, after.lastInsertRowid, ?_⟩
    rw [Action.forEach_append, Action.bind_of_ok _ ran, Action.forEach_cons, Action.bind_of_ok _ ended]
    rfl

theorem process_whole_returns_iff (starts : iter.StartsAt)
    (appendable : ∀ beginning, beginning <+: log.entries → ∃ db, Holds crates secretKeys pubKey beginning db)
    {connection : Connection Db} (holds : Holds crates secretKeys pubKey log.entries connection.db) (number : Int64) :
    ((process crates secretKeys iter log number).run connection).outcome = .ok () ↔
      number = 0 ∨ ¬ Stuck log.entries := by
  have parts : log.entries = log.entries ++ [] := (List.append_nil _).symm
  apply Action.Ends.returns_iff
  by_cases zero : number = 0
  · apply Action.Ends.of_ok (process_none (itemsToTake_eq_zero_iff.mpr zero))
    exact .inl zero
  · by_cases stuck : Stuck log.entries
    · apply (holds.process_stuck starts parts stuck (mt itemsToTake_eq_zero_iff.mp zero)).mono
      · exact fun _ _ => False.elim
      · exact fun _ _ either => either.elim zero fun free => free stuck
    · obtain ⟨after, ended, -⟩ := holds.process_returns starts parts stuck appendable number
      exact Action.Ends.of_ok ended (.inr stuck)

end

/-- Calls on parts of the log: none fails, together they index what they asked for, a single call for
as many entries gives the same, and a further call on a view that holds the whole log changes nothing. -/
structure ChunkedAsOneShot (log : Log) (numItems : List Int64) : Prop where
  returns : ((Action.forEach numItems (process crates secretKeys iter log)).run (created pubKey)).outcome = .ok ()
  indexed : Holds crates secretKeys pubKey (log.entries.take (taken log numItems))
    ((Action.forEach numItems (process crates secretKeys iter log)).run (created pubKey)).state.db
  oneShot : ∀ number, (0 ≤ number ∨ number = -1) → taken log [number] = taken log numItems →
    ((process crates secretKeys iter log number).run (created pubKey)).outcome = .ok () ∧
    ((process crates secretKeys iter log number).run (created pubKey)).state.db =
      ((Action.forEach numItems (process crates secretKeys iter log)).run (created pubKey)).state.db
  idle : taken log numItems = log.entries.length → ∀ number,
    (((process crates secretKeys iter log number).run
      ((Action.forEach numItems (process crates secretKeys iter log)).run (created pubKey)).state).outcome = .ok () ↔
        number = 0 ∨ ¬ Stuck log.entries) ∧
    ((process crates secretKeys iter log number).run
      ((Action.forEach numItems (process crates secretKeys iter log)).run (created pubKey)).state).state.db =
    ((Action.forEach numItems (process crates secretKeys iter log)).run (created pubKey)).state.db

theorem chunked_as_oneShot_iff (starts : iter.StartsAt) (log : Log)
    (accepted : ∀ entry ∈ log.entries,
      ((appendItem crates secretKeys entry.1 entry.2).run (created pubKey)).outcome = .ok ())
    (distinct : ((log.entries.filterMap (Stored.read crates secretKeys)).map Stored.key).Nodup)
    (numItems : List Int64) (allowed : ∀ number ∈ numItems, 0 ≤ number ∨ number = -1) :
    ChunkedAsOneShot crates secretKeys pubKey iter log numItems ↔ NeverStuck log numItems := by
  have appendable := appendable_of_accepted accepted distinct
  have ends := calls_ends starts appendable allowed
  constructor
  · intro chunked
    exact (ends.ok (Ended.eq_of_outcome chunked.returns)).1
  · intro never
    rcases Action.run_cases (Action.forEach numItems (process crates secretKeys iter log)) (created pubKey) with
      ⟨_, after, ended⟩ | ⟨why, after, ended⟩
    · have holds := (ends.ok ended).2
      refine ⟨by rw [ended], by rwa [ended], fun number allowed' same => ?_, fun whole number => ?_⟩
      · have single : Action.Ends (process crates secretKeys iter log number) (created pubKey)
            (fun _ after' => Holds crates secretKeys pubKey (log.entries.take (taken log [number])) after'.db)
            fun _ => False := process_first starts appendable allowed'
        obtain ⟨_, after', ended', holds'⟩ := single.returns
        rw [same] at holds'
        rw [ended', ended]
        exact ⟨rfl, holds'.unique holds⟩
      · rw [ended]
        rw [whole, List.take_length] at holds
        refine ⟨process_whole_returns_iff starts appendable holds number, ?_⟩
        obtain ⟨more, within, reached⟩ := holds.processUntil_state starts (List.append_nil _).symm number
          (chunks 1000 (processItems iter log number (getLatest after.db))).length
        rw [← process_eq_processUntil, List.prefix_nil.mp within, List.append_nil] at reached
        exact reached.unique holds
    · exact absurd never (ends.error ended)

/-- The second call reads the entry at offset 0 again, which its key refuses. -/
theorem process_stuck_behind_first :
    (∀ entry ∈ postLog.entries,
      ((appendItem logCrates [()] entry.1 entry.2).run (created "@me")).outcome = .ok ()) ∧
    ((postLog.entries.filterMap (Stored.read logCrates [()])).map Stored.key).Nodup ∧
    ((Action.forEach [1, -1] (process logCrates [()] iterFrom postLog)).run (created "@me")).outcome =
      .error .panic := by
  decide +kernel

theorem chunked_as_oneShot_posts :
    ChunkedAsOneShot logCrates [()] "@me" iterFrom postLog [0, 2, -1] ↔ NeverStuck postLog [0, 2, -1] :=
  chunked_as_oneShot_iff logCrates [()] "@me" iterFrom iterFrom_startsAt postLog (by decide +kernel)
    (by decide +kernel) [0, 2, -1] (by simp)

end FlumeViewSql

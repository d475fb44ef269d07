import FlumeViewSql.Index.Growth
import FlumeViewSql.Index.History
import FlumeViewSql.Source.Process

/-! Views that hold a beginning of the log, and where the next call of `process` resumes.

The resume point is read back from `MAX(flume_seq)`. It is the entry behind the last one
held, unless that one has offset 0, which also stands for an empty view, or an offset that is
negative as an `i64`; then entries that the view holds are read again.
-/

set_option autoImplicit false

namespace FlumeViewSql

open Execution Relational

section
variable {SecretKey : Type} (crates : Crates SecretKey) (secretKeys : List SecretKey) (pubKey : String)

/-- The database that appending `held` to a freshly created view gives. -/
def Holds (held : List (Sequence × Bytes)) (db : Db) : Prop :=
  ∃ last, (Action.forEach held fun item => append crates secretKeys item.1 item.2).run (created pubKey) =
    ⟨.ok (), ⟨db, last⟩⟩

variable {crates secretKeys pubKey} {held : List (Sequence × Bytes)} {db : Db}

theorem holds_nil : Holds crates secretKeys pubKey [] (.created pubKey) := ⟨1, rfl⟩

theorem Holds.unique {other : Db} (holds : Holds crates secretKeys pubKey held db)
    (again : Holds crates secretKeys pubKey held other) : db = other := by
  obtain ⟨last, ran⟩ := holds
  obtain ⟨last', ran'⟩ := again
  have same := ran.symm.trans ran'
  simp only [Ended.mk.injEq, Connection.mk.injEq, true_and] at same
  exact same.1

theorem Holds.appended (holds : Holds crates secretKeys pubKey held db) :
    ∃ history, Appended crates secretKeys (.created pubKey) held history db := by
  obtain ⟨last, ran⟩ := holds
  have started : Represents (created pubKey).db (.created pubKey) := represents_created pubKey
  exact (appendItems_ends crates secretKeys started held).ok ran

theorem Holds.flumeSeqs (holds : Holds crates secretKeys pubKey held db) :
    (db.messagesRaw.rows.map Prod.fst).Perm (held.map fun item => asI64 item.1) := by
  obtain ⟨history, appended⟩ := holds.appended
  have seqs := congrArg (List.map asI64) appended.seqs
  rw [List.map_map, List.map_map] at seqs
  have rows := appended.represents.flumeSeqs_perm
  rw [Facts.foldl_index, List.map_append, List.map_map] at rows
  exact rows.trans (.of_eq seqs)

/-- One batch: the view holds it too, or nothing changed because it cannot be appended. -/
theorem Holds.appendBatch_ends {connection : Connection Db} (holds : Holds crates secretKeys pubKey held connection.db)
    (batch : List (Sequence × Bytes)) :
    Action.Ends (appendBatch crates secretKeys batch) connection
      (fun _ after => Holds crates secretKeys pubKey (held ++ batch) after.db)
      (fun after => after.db = connection.db ∧ ∀ db, ¬ Holds crates secretKeys pubKey (held ++ batch) db) := by
  obtain ⟨last, ran⟩ := holds
  have respects : Action.Respects Sql.SameDb
      (Action.forEach batch fun item => append crates secretKeys item.1 item.2) :=
    .forEach batch fun item => (append_adds crates secretKeys item.1 item.2).respects
  have parts := Action.forEach_append held batch (fun item => append crates secretKeys item.1 item.2) (created pubKey)
  rw [Action.bind_of_ok _ ran] at parts
  -- The last rowid may differ from that of the view that appended `held`, without effect.
  have same : Sql.SameDb ⟨connection.db, last⟩ connection := rfl
  rcases Action.run_cases (Action.forEach batch fun item => append crates secretKeys item.1 item.2)
    ⟨connection.db, last⟩ with ⟨_, after, ended⟩ | ⟨why, after, ended⟩
  · obtain ⟨after', ended', same'⟩ := respects.ok same ended
    apply Action.Ends.of_ok (Action.run_transaction_ok ended')
    rw [ended] at parts
    exact ⟨after.lastInsertRowid, by rw [parts, ← (same' : after.db = after'.db)]⟩
  · obtain ⟨after', ended', -⟩ := respects.error same ended
    apply Action.Ends.of_error (Action.run_transaction_error ended')
    refine ⟨rfl, fun db ⟨last', ran'⟩ => ?_⟩
    rw [parts, ended] at ran'
    cases ran'

/-- An entry that the view holds is refused, and its whole batch with it. -/
theorem Holds.refuses {connection : Connection Db} (holds : Holds crates secretKeys pubKey held connection.db)
    {again : Sequence × Bytes} (member : again ∈ held) (more : List (Sequence × Bytes)) :
    Action.Ends (appendBatch crates secretKeys (again :: more)) connection (fun _ _ => False)
      (fun after => after.db = connection.db) := by
  apply (holds.appendBatch_ends (again :: more)).mono
  · intro _ after twice
    have rowids := after.db.messagesRaw.rowids
    rw [twice.flumeSeqs.nodup_iff, List.map_append, List.map_cons] at rowids
    exact (List.disjoint_of_nodup_append rowids) (List.mem_map_of_mem member) List.mem_cons_self
  · exact fun _ stopped => stopped.1

end

/-! ### The resume point -/

/-- The last entry held does not tell where it stands: its offset is 0 or negative as an `i64`. -/
def Stuck (held : List (Sequence × Bytes)) : Prop :=
  ∃ last, held.getLast? = some last ∧ (last.1 = 0 ∨ 2 ^ 63 ≤ last.1.toNat)

/-- A later offset whose `i64` is not larger has wrapped around. -/
theorem wrapped_of_lt {offset later : Sequence} (small : offset.toNat < 2 ^ 63) (behind : offset < later)
    (notLarger : asI64 later ≤ asI64 offset) : 2 ^ 63 ≤ later.toNat := by
  by_contra low
  have lowLater : later.toNat < 2 ^ 63 := by omega
  have order := UInt64.lt_iff_toNat_lt.mp behind
  rw [asI64_of_lt small, asI64_of_lt lowLater] at notLarger
  omega

/-- The largest `i64` among the offsets held belongs to the last entry, or to one before it when
the last one is negative. -/
theorem exists_largest {held : List (Sequence × Bytes)}
    (increasing : held.Pairwise fun first second => first.1 < second.1)
    (fromZero : ∀ first ∈ held.head?, first.1 = 0) (nonempty : held ≠ []) :
    ∃ before entry behind, held = before ++ entry :: behind ∧
      (held.map fun item => asI64 item.1).max? = some (asI64 entry.1) ∧ entry.1.toNat < 2 ^ 63 ∧
      (behind ≠ [] → ∃ last, held.getLast? = some last ∧ 2 ^ 63 ≤ last.1.toNat) := by
  cases found : (held.map fun item => asI64 item.1).max? with
  | none => simp [List.max?_eq_none_iff, nonempty] at found
  | some largest =>
    obtain ⟨listed, above⟩ := List.max?_eq_some_iff.mp found
    obtain ⟨entry, member, rfl⟩ := List.mem_map.mp listed
    obtain ⟨before, behind, split⟩ := List.append_of_mem member
    have small : entry.1.toNat < 2 ^ 63 := by
      obtain ⟨first, rest, rfl⟩ := List.exists_cons_of_ne_nil nonempty
      have zero : first.1 = 0 := fromZero first rfl
      have bound := above (asI64 first.1) (List.mem_map_of_mem List.mem_cons_self)
      rw [zero] at bound
      exact asI64_nonneg_iff.mp bound
    -- Offsets increase, so one behind the largest `i64` can only have wrapped around.
    refine ⟨before, entry, behind, split, rfl, small, fun more => ?_⟩
    obtain ⟨last, isLast⟩ : ∃ last, behind.getLast? = some last := ⟨_, List.getLast?_eq_some_getLast more⟩
    refine ⟨last, by rw [split]; simp [List.getLast?_cons, isLast], ?_⟩
    have later : entry.1 < last.1 := by
      rw [split, List.pairwise_append, List.pairwise_cons] at increasing
      exact increasing.2.1.1 last (List.mem_of_getLast? isLast)
    have lastHeld : last ∈ held := by
      rw [split]
      exact List.mem_append_right _ (List.mem_cons_of_mem _ (List.mem_of_getLast? isLast))
    exact wrapped_of_lt small later (above (asI64 last.1) (List.mem_map_of_mem lastHeld))

section
variable {iter : OffsetLogIter} {log : Log} (numItems : Int64)

/-- Adding the starting offset to an id gives the offset back. -/
theorem processItems_of_yields {latest : Sequence} {behind : List (Sequence × Bytes)}
    (yields : iter log latest = behind.map fun entry => (entry.1 - latest, entry.2)) :
    processItems iter log numItems latest = (behind.drop (numToSkip latest)).take (itemsToTake numItems) := by
  have restored : (fun data : Sequence × Bytes => (data.1 + latest, data.2)) ∘
      (fun entry => (entry.1 - latest, entry.2)) = id := by
    funext entry
    simp
  rw [processItems, yields, ← List.map_drop, ← List.map_take, List.map_map, restored, List.map_id]

theorem processItems_fresh (starts : iter.StartsAt) :
    processItems iter log numItems 0 = log.entries.take (itemsToTake numItems) := by
  have all : (log.entries.filter fun entry => (0 : Sequence) ≤ entry.1) = log.entries := by
    apply List.filter_eq_self.mpr
    simp
  have yielded := starts log 0 (.inl rfl)
  rw [all] at yielded
  rw [processItems_of_yields numItems yielded]
  rfl

/-- From an entry's offset the entries behind it are read, and the entry too when its offset is 0. -/
theorem processItems_from (starts : iter.StartsAt) {before behind : List (Sequence × Bytes)}
    {entry : Sequence × Bytes} (split : log.entries = before ++ entry :: behind) :
    processItems iter log numItems entry.1 =
      (if entry.1 = 0 then entry :: behind else behind).take (itemsToTake numItems) := by
  have increasing := log.increasing
  rw [split, List.pairwise_append, List.pairwise_cons] at increasing
  obtain ⟨-, ⟨later, -⟩, earlier⟩ := increasing
  have fromEntry : (log.entries.filter fun other => entry.1 ≤ other.1) = entry :: behind := by
    rw [split, List.filter_append]
    have none : (before.filter fun other => entry.1 ≤ other.1) = [] := by
      apply List.filter_eq_nil_iff.mpr
      intro other member
      simpa using earlier other member entry List.mem_cons_self
    have all : ((entry :: behind).filter fun other => entry.1 ≤ other.1) = entry :: behind := by
      apply List.filter_eq_self.mpr
      intro other member
      rcases List.mem_cons.mp member with rfl | behindIt
      · simp
      · simpa using UInt64.le_of_lt (later other behindIt)
    rw [none, all, List.nil_append]
  have yielded := starts log entry.1 (.inr (by rw [split]; simp))
  rw [fromEntry] at yielded
  rw [processItems_of_yields numItems yielded]
  by_cases zero : entry.1 = 0
  · rw [zero, if_pos rfl]
    rfl
  · rw [numToSkip_of_ne zero, if_neg zero, List.drop_one, List.tail_cons]

end

section
variable {SecretKey : Type} {crates : Crates SecretKey} {secretKeys : List SecretKey} {pubKey : String}
  {held rest : List (Sequence × Bytes)} {db : Db} {iter : OffsetLogIter} {log : Log}

theorem Holds.getLatest_nil (holds : Holds crates secretKeys pubKey [] db) : getLatest db = 0 := by
  rw [getLatest, Table.lastRowid, max?_perm holds.flumeSeqs]
  rfl

theorem Holds.getLatest_of_largest (holds : Holds crates secretKeys pubKey held db) {entry : Sequence × Bytes}
    (largest : (held.map fun item => asI64 item.1).max? = some (asI64 entry.1)) : getLatest db = entry.1 := by
  rw [getLatest, Table.lastRowid, max?_perm holds.flumeSeqs, largest, Option.getD_some, asSequence_asI64]

/-- The next call reads what is not held, or first reads an entry that is. -/
theorem Holds.resume (starts : iter.StartsAt) (holds : Holds crates secretKeys pubKey held db)
    (parts : log.entries = held ++ rest) :
    ∃ resumed, (∀ numItems, processItems iter log numItems (getLatest db) = resumed.take (itemsToTake numItems)) ∧
      ((¬ Stuck held ∧ resumed = rest) ∨ (Stuck held ∧ ∃ again ∈ held, ∃ more, resumed = again :: more)) := by
  by_cases empty : held = []
  · subst empty
    refine ⟨rest, fun numItems => ?_, .inl ⟨by simp [Stuck], rfl⟩⟩
    rw [holds.getLatest_nil, processItems_fresh numItems starts, parts, List.nil_append]
  have increasing : held.Pairwise fun first second => first.1 < second.1 := by
    have all := log.increasing
    rw [parts] at all
    exact all.sublist (List.sublist_append_left held rest)
  have fromZero : ∀ first ∈ held.head?, first.1 = 0 := by
    intro first member
    apply log.fromZero
    rw [parts, List.head?_append_of_ne_nil held empty]
    exact member
  obtain ⟨before, entry, behind, split, largest, small, negative⟩ := exists_largest increasing fromZero empty
  have whole : log.entries = before ++ entry :: (behind ++ rest) := by
    rw [parts, split, List.append_assoc, List.cons_append]
  -- Reading starts at the entry that `MAX(flume_seq)` belongs to, and skips it unless its offset is 0.
  refine ⟨if entry.1 = 0 then entry :: (behind ++ rest) else behind ++ rest, fun numItems => ?_, ?_⟩
  · rw [holds.getLatest_of_largest largest, processItems_from numItems starts whole]
  have entryHeld : entry ∈ held := by
    rw [split]
    exact List.mem_append_right before List.mem_cons_self
  cases behind with
  | nil =>
    have isLast : held.getLast? = some entry := by rw [split, List.getLast?_concat]
    by_cases zero : entry.1 = 0
    · exact .inr ⟨⟨entry, isLast, .inl zero⟩, entry, entryHeld, rest, by simp [zero]⟩
    · refine .inl ⟨?_, by simp [zero]⟩
      rintro ⟨last, isLast', stuck⟩
      cases isLast.symm.trans isLast'
      rcases stuck with same | large
      · exact zero same
      · omega
  | cons next more =>
    obtain ⟨last, isLast, large⟩ := negative (List.cons_ne_nil next more)
    have nextHeld : next ∈ held := by
      rw [split]
      exact List.mem_append_right before (List.mem_cons_of_mem entry List.mem_cons_self)
    refine .inr ⟨⟨last, isLast, .inr large⟩, ?_⟩
    by_cases zero : entry.1 = 0
    · exact ⟨entry, entryHeld, next :: more ++ rest, by simp [zero]⟩
    · exact ⟨next, nextHeld, more ++ rest, by simp [zero]⟩

/-! ### Batches -/

variable {connection : Connection Db}

/-- Batches of what is not held: all are held afterwards, or those before one that cannot be appended. -/
theorem Holds.batches_ends (holds : Holds crates secretKeys pubKey held connection.db)
    (batches : List (List (Sequence × Bytes))) :
    Action.Ends (Action.forEach batches (appendBatch crates secretKeys)) connection
      (fun _ after => Holds crates secretKeys pubKey (held ++ batches.flatten) after.db)
      (fun after => (∃ done, done <+: batches.flatten ∧ Holds crates secretKeys pubKey (held ++ done) after.db) ∧
        ∃ failed, failed <+: batches.flatten ∧ ∀ db, ¬ Holds crates secretKeys pubKey (held ++ failed) db) := by
  apply Action.Ends.forEach fun seen (now : Connection Db) =>
    Holds crates secretKeys pubKey (held ++ seen.flatten) now.db
  · simpa using holds
  · intro seen batch others now parts reached
    have whole : batches.flatten = seen.flatten ++ (batch ++ others.flatten) := by rw [parts]; simp
    apply (reached.appendBatch_ends batch).mono
    · intro _ after longer
      simpa [List.append_assoc] using longer
    · rintro after ⟨same, failed⟩
      refine ⟨⟨seen.flatten, ⟨_, whole.symm⟩, same ▸ reached⟩, seen.flatten ++ batch, ⟨others.flatten, ?_⟩, ?_⟩
      · rw [whole, List.append_assoc]
      · simpa [List.append_assoc] using failed

/-- Batches that begin with an entry that is held: nothing changes, and only no batch at all returns. -/
theorem Holds.batches_again (holds : Holds crates secretKeys pubKey held connection.db) {again : Sequence × Bytes}
    (member : again ∈ held) (more : List (Sequence × Bytes)) (numItems : Int64) (count : Nat) :
    Action.Ends (Action.forEach ((chunks 1000 ((again :: more).take (itemsToTake numItems))).take count)
      (appendBatch crates secretKeys)) connection
      (fun _ after => after.db = connection.db ∧ (itemsToTake numItems = 0 ∨ count = 0))
      (fun after => after.db = connection.db) := by
  cases counted : itemsToTake numItems with
  | zero =>
    rw [List.take_zero, chunks_nil, List.take_nil]
    exact Action.Ends.pure ⟨rfl, .inl rfl⟩
  | succ number =>
    obtain ⟨first, others, cut⟩ := chunks_cons (by decide : 0 < 1000) again (more.take number)
    rw [List.take_succ_cons, cut]
    cases count with
    | zero => exact Action.Ends.pure ⟨rfl, .inr rfl⟩
    | succ count =>
      rw [List.take_succ_cons, Action.forEach_cons]
      apply (holds.refuses member first).bind
      exact fun _ _ => False.elim

/-- Whatever stops or cuts off a call, the view holds a beginning of the log that is no shorter than before. -/
theorem Holds.processUntil_state (starts : iter.StartsAt) (holds : Holds crates secretKeys pubKey held connection.db)
    (parts : log.entries = held ++ rest) (numItems : Int64) (count : Nat) :
    ∃ more, more <+: rest ∧ Holds crates secretKeys pubKey (held ++ more)
      ((processUntil crates secretKeys iter log numItems count).run connection).state.db := by
  obtain ⟨resumed, items, ⟨-, rfl⟩ | ⟨-, again, member, more, rfl⟩⟩ := holds.resume starts parts
  all_goals rw [processUntil_run, items numItems]
  · have begins := (flatten_take_chunks (by decide : 0 < 1000) (resumed.take (itemsToTake numItems)) count).trans
      (List.take_prefix _ resumed)
    have ends := holds.batches_ends ((chunks 1000 (resumed.take (itemsToTake numItems))).take count)
    rcases Action.run_cases _ connection with ⟨_, after, ended⟩ | ⟨why, after, ended⟩ <;> rw [ended]
    · exact ⟨_, begins, ends.ok ended⟩
    · obtain ⟨⟨done, beginning, reached⟩, -⟩ := ends.error ended
      exact ⟨done, beginning.trans begins, reached⟩
  · have ends := holds.batches_again member more numItems count
    refine ⟨[], List.nil_prefix, ?_⟩
    rw [List.append_nil]
    rcases Action.run_cases _ connection with ⟨_, after, ended⟩ | ⟨why, after, ended⟩ <;> rw [ended]
    · exact (ends.ok ended).1 ▸ holds
    · exact ends.error ended ▸ holds

theorem process_eq_processUntil (numItems : Int64) :
    (process crates secretKeys iter log numItems).run connection =
      (processUntil crates secretKeys iter log numItems
        (chunks 1000 (processItems iter log numItems (getLatest connection.db))).length).run connection := by
  rw [process_run, processUntil_run, List.take_length]

theorem process_none {numItems : Int64} (none : itemsToTake numItems = 0) :
    (process crates secretKeys iter log numItems).run connection = ⟨.ok (), connection⟩ := by
  have items : processItems iter log numItems (getLatest connection.db) = [] := by simp [processItems, none]
  rw [process_run, items, chunks_nil]
  rfl

/-- A call on a view that is not stuck takes the next entries, if they can be appended. -/
theorem Holds.process_returns (starts : iter.StartsAt) (holds : Holds crates secretKeys pubKey held connection.db)
    (parts : log.entries = held ++ rest) (free : ¬ Stuck held)
    (appendable : ∀ beginning, beginning <+: log.entries → ∃ db, Holds crates secretKeys pubKey beginning db)
    (numItems : Int64) :
    ∃ after, (process crates secretKeys iter log numItems).run connection = ⟨.ok (), after⟩ ∧
      Holds crates secretKeys pubKey (held ++ rest.take (itemsToTake numItems)) after.db := by
  obtain ⟨resumed, items, ⟨-, rfl⟩ | ⟨stuck, -⟩⟩ := holds.resume starts parts
  · have ends := holds.batches_ends (chunks 1000 (resumed.take (itemsToTake numItems)))
    rw [flatten_chunks (by decide)] at ends
    have returns : Action.Ends (process crates secretKeys iter log numItems) connection
        (fun _ after => Holds crates secretKeys pubKey (held ++ resumed.take (itemsToTake numItems)) after.db)
        fun _ => False := by
      apply Action.Ends.of_run_eq ((process_run crates secretKeys iter log numItems connection).trans (by rw [items]))
      apply ends.mono
      · exact fun _ _ => id
      · rintro _ ⟨-, failed, beginning, impossible⟩
        have within : held ++ failed <+: log.entries := by
          rw [parts]
          exact List.prefix_append_right_inj held |>.mpr (beginning.trans (List.take_prefix _ _))
        obtain ⟨db, possible⟩ := appendable _ within
        exact impossible db possible
    obtain ⟨_, after, ended, reached⟩ := returns.returns
    exact ⟨after, ended, reached⟩
  · exact absurd stuck free

/-- A call on a stuck view that takes anything stops, and changes nothing. -/
theorem Holds.process_stuck (starts : iter.StartsAt) (holds : Holds crates secretKeys pubKey held connection.db)
    (parts : log.entries = held ++ rest) (stuck : Stuck held) {numItems : Int64} (some : itemsToTake numItems ≠ 0) :
    Action.Ends (process crates secretKeys iter log numItems) connection (fun _ _ => False)
      (fun after => after.db = connection.db) := by
  obtain ⟨resumed, items, ⟨free, -⟩ | ⟨-, again, member, more, rfl⟩⟩ := holds.resume starts parts
  · exact absurd stuck free
  · have ends := holds.batches_again member more numItems
      (chunks 1000 (processItems iter log numItems (getLatest connection.db))).length
    apply Action.Ends.of_run_eq ((process_eq_processUntil numItems).trans (processUntil_run ..))
    rw [items numItems] at ends ⊢
    apply ends.mono
    · rintro _ after ⟨-, none | empty⟩
      · exact some none
      · obtain ⟨number, counted⟩ := Nat.exists_eq_succ_of_ne_zero some
        rw [counted, List.take_succ_cons] at empty
        obtain ⟨first, others, cut⟩ := chunks_cons (by decide : 0 < 1000) again (more.take number)
        rw [cut] at empty
        exact absurd empty (Nat.succ_ne_zero _)
    · exact fun _ => id

end

end FlumeViewSql

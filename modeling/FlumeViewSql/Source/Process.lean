import FlumeViewSql.Execution.Batches
import FlumeViewSql.Source.View

/-! `SsbQuery::process`: reading the log from where the view stands. -/

set_option autoImplicit false

namespace FlumeViewSql

open Execution Relational

/-- An append-only log file. An entry takes room, so a file of at most `u64::MAX` bytes
holds fewer than 2 ^ 64 of them. -/
structure Log where
  entries : List (Sequence × Bytes)
  increasing : entries.Pairwise fun first second => first.1 < second.1
  fromZero : ∀ first ∈ entries.head?, first.1 = 0
  fewer : entries.length < 2 ^ 64

/-- flumedb's `OffsetLogIter::with_starting_offset`: pairs of `id` and `data_buffer`. -/
abbrev OffsetLogIter := Log → Sequence → List (Sequence × Bytes)

/-- What flumedb promises: from the offset of an entry, or from 0, the iterator yields the entries
from there on, each with its distance as `id`. -/
def OffsetLogIter.StartsAt (iter : OffsetLogIter) : Prop :=
  ∀ log offset, offset = 0 ∨ offset ∈ log.entries.map Prod.fst →
    iter log offset = (log.entries.filter fun entry => offset ≤ entry.1).map fun entry => (entry.1 - offset, entry.2)

/-- `num_items as usize`, where -1 is `usize::MAX`. -/
def itemsToTake (numItems : Int64) : Nat :=
  if numItems = -1 then 2 ^ 64 - 1 else numItems.toUInt64.toNat

theorem itemsToTake_of_nonneg {numItems : Int64} (nonneg : 0 ≤ numItems) :
    itemsToTake numItems = numItems.toNatClampNeg := by
  rw [itemsToTake, if_neg, Int64.toNat_toUInt64_of_le nonneg]
  rintro rfl
  exact absurd nonneg (by decide)

theorem itemsToTake_eq_zero_iff {numItems : Int64} : itemsToTake numItems = 0 ↔ numItems = 0 := by
  unfold itemsToTake
  split
  · next all => simp [all]
  · constructor
    · intro zero
      have unsigned := UInt64.toNat_inj.mp (zero.trans UInt64.toNat_zero.symm)
      simpa using congrArg UInt64.toInt64 unsigned
    · rintro rfl
      rfl

/-- A latest of 0 is taken for an empty view, whose first entry is not skipped. -/
def numToSkip (latest : Sequence) : Nat :=
  match latest with
  | 0 => 0
  | _ => 1

theorem numToSkip_of_ne {latest : Sequence} (nonzero : latest ≠ 0) : numToSkip latest = 1 := by
  unfold numToSkip
  split
  · exact absurd rfl nonzero
  · rfl

section
variable {SecretKey : Type} (crates : Crates SecretKey) (secretKeys : List SecretKey) (iter : OffsetLogIter)
  (log : Log) (numItems : Int64)

/-- The items of one call, read from a view whose latest entry is `latest`. -/
def processItems (latest : Sequence) : List (Sequence × Bytes) :=
  -- The iterator counts its ids from where it started.
  (((iter log latest).drop (numToSkip latest)).take (itemsToTake numItems)).map fun data => (data.1 + latest, data.2)

def process : Sql Db Unit := fun connection =>
  (Action.forEach (chunks 1000 (processItems iter log numItems (getLatest connection.db)))
    (appendBatch crates secretKeys)).run connection

/-- A call that is cut off after it committed so many batches. -/
def processUntil (batches : Nat) : Sql Db Unit := fun connection =>
  (Action.forEach ((chunks 1000 (processItems iter log numItems (getLatest connection.db))).take batches)
    (appendBatch crates secretKeys)).run connection

theorem process_run (connection : Connection Db) :
    (process crates secretKeys iter log numItems).run connection =
      (Action.forEach (chunks 1000 (processItems iter log numItems (getLatest connection.db)))
        (appendBatch crates secretKeys)).run connection := by
  simp only [Action.run, process]

theorem processUntil_run (batches : Nat) (connection : Connection Db) :
    (processUntil crates secretKeys iter log numItems batches).run connection =
      (Action.forEach ((chunks 1000 (processItems iter log numItems (getLatest connection.db))).take batches)
        (appendBatch crates secretKeys)).run connection := by
  simp only [Action.run, processUntil]

end

end FlumeViewSql

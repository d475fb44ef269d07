import FlumeViewSql.Execution.Simulation
import FlumeViewSql.Index.History

/-! The view as an abstract machine on facts.

The machine says what the calls are for and which of them are refused, without tables, ids or
statements. What it leaves of a refused `append` is what the source leaves: the strings interned
and the edges recorded before the message was refused.
-/

set_option autoImplicit false

namespace FlumeViewSql

open Execution Relational

variable {SecretKey : Type} (crates : Crates SecretKey) (secretKeys : List SecretKey)

instance (facts : Facts) (stored : Stored) : Decidable (facts.Accepts stored) :=
  inferInstanceAs (Decidable (_ ∧ _))

/-- What is left of a message that could be read but is refused. -/
def Facts.refused (facts : Facts) (stored : Stored) : Facts :=
  -- Its links are recorded before its branches are looked at.
  if FlumeViewSql.branches stored.content = none then facts.linked stored else facts.prepared stored

/-- One entry of the log. -/
def recording : Machine (Sequence × Bytes) Facts where
  accept facts item := do
    let stored ← Stored.read crates secretKeys item
    if facts.Accepts stored then some (facts.index crates stored) else none
  refuse facts item := ((Stored.read crates secretKeys item).map facts.refused).getD facts

/-- `append` on single entries, `append_batch` on lists. -/
def indexing : Machine Call Facts where
  accept facts
    | .append seq item => (recording crates secretKeys).accept facts (seq, item)
    | .appendBatch items => (recording crates secretKeys).batched.accept facts items
  refuse facts
    | .append seq item => (recording crates secretKeys).refuse facts (seq, item)
    | .appendBatch items => (recording crates secretKeys).batched.refuse facts items

variable {crates secretKeys}

theorem recording_accept_eq_some {facts facts' : Facts} {item : Sequence × Bytes} :
    (recording crates secretKeys).accept facts item = some facts' ↔
      ∃ stored, Stored.read crates secretKeys item = some stored ∧ facts.Accepts stored ∧
        facts' = facts.index crates stored := by
  simp only [recording, Option.bind_eq_bind, Option.bind_eq_some_iff]
  constructor
  · intro ⟨stored, read, answer⟩
    split at answer
    · next accepts => exact ⟨stored, read, accepts, (Option.some.inj answer).symm⟩
    · cases answer
  · intro ⟨stored, read, accepts, same⟩
    exact ⟨stored, read, by rw [if_pos accepts, same]⟩

theorem recording_unread {item : Sequence × Bytes} (unread : Stored.read crates secretKeys item = none)
    (facts : Facts) : (recording crates secretKeys).accept facts item = none ∧
      (recording crates secretKeys).refuse facts item = facts := by
  simp [recording, unread]

theorem recording_refuses {item : Sequence × Bytes} {stored : Stored}
    (read : Stored.read crates secretKeys item = some stored) {facts : Facts} (refused : ¬ facts.Accepts stored) :
    (recording crates secretKeys).accept facts item = none ∧
      (recording crates secretKeys).refuse facts item = facts.refused stored := by
  simp [recording, read, refused]

/-- The database of the connection holds the facts. -/
def Tells (connection : Connection Db) (facts : Facts) : Prop := Represents connection.db facts

variable (crates secretKeys)

theorem appendItem_simulates : (recording crates secretKeys).Simulates Tells
    fun item => (appendItem crates secretKeys item.1 item.2).unwrap := by
  intro item connection facts represents
  apply Action.Ends.unwrap
  apply (appendItem_ends crates secretKeys represents item).mono
  · intro _ after ⟨stored, read, accepts, recorded⟩
    exact ⟨_, recording_accept_eq_some.mpr ⟨stored, read, accepts, rfl⟩, recorded.represents⟩
  · rintro after (⟨unread, rfl⟩ | ⟨stored, read, ⟨absent, recorded⟩ | ⟨present, refused, recorded⟩⟩)
    · obtain ⟨refuses, left⟩ := recording_unread unread facts
      exact ⟨refuses, by rwa [left]⟩
    · obtain ⟨refuses, left⟩ := recording_refuses read fun accepts : facts.Accepts stored => accepts.1 absent
      rw [left, Facts.refused, if_pos absent]
      exact ⟨refuses, recorded.represents⟩
    · obtain ⟨refuses, left⟩ := recording_refuses read fun accepts : facts.Accepts stored => refused accepts.2
      rw [left, Facts.refused, if_neg present]
      exact ⟨refuses, recorded.represents⟩

theorem call_simulates : (indexing crates secretKeys).Simulates Tells (Call.perform crates secretKeys) := by
  intro call connection facts represents
  cases call with
  | append seq item => exact appendItem_simulates crates secretKeys (seq, item) connection facts represents
  | appendBatch items =>
    have rolledBack : ∀ before after : Connection Db, ∀ facts, Tells before facts →
        Tells ⟨before.db, after.lastInsertRowid⟩ facts := fun _ _ _ => id
    exact (appendItem_simulates crates secretKeys).batched rolledBack items connection facts represents

/-- A batch is recorded as a whole, or the database is as it was. -/
theorem appendBatch_follows {connection : Connection Db} {facts : Facts} (represents : Represents connection.db facts)
    (items : List (Sequence × Bytes)) : Action.Ends (appendBatch crates secretKeys items) connection
      (fun _ after => ∃ facts', (recording crates secretKeys).acceptAll items facts = some facts' ∧
        Represents after.db facts')
      (fun after => (recording crates secretKeys).acceptAll items facts = none ∧ after.db = connection.db) := by
  apply Action.Ends.transaction
  apply ((appendItem_simulates crates secretKeys).forEach items represents).mono
  · exact fun _ _ => id
  · exact fun _ refuses => ⟨refuses, rfl⟩

/-- Any history is followed by the machine: the calls that it accepts are those that return. -/
theorem history_follows (pubKey : String) (calls : List Call) :
    Represents (connectionAfter crates secretKeys pubKey calls).db
        ((indexing crates secretKeys).run calls (.created pubKey)) ∧
      Action.returned (Call.perform crates secretKeys) calls (created pubKey) =
        (indexing crates secretKeys).accepted calls (.created pubKey) :=
  (call_simulates crates secretKeys).calls calls (represents_created pubKey)

variable {crates secretKeys}

/-- Messages that a new view takes one after another: each offset and each key comes once. -/
structure Storable (history : List Stored) : Prop where
  branched : ∀ stored ∈ history, FlumeViewSql.branches stored.content ≠ none
  seqs : (history.map Stored.seq).Nodup
  keys : (history.map Stored.key).Nodup

theorem Storable.perm {history other : List Stored} (storable : Storable history) (perm : history.Perm other) :
    Storable other where
  branched stored member := storable.branched stored (perm.mem_iff.mpr member)
  seqs := (perm.map _).nodup_iff.mp storable.seqs
  keys := (perm.map _).nodup_iff.mp storable.keys

/-- One more message is taken exactly when it is accepted behind the others. -/
theorem storable_concat_iff {history : List Stored} {stored : Stored} (pubKey : String) :
    Storable (history ++ [stored]) ↔
      Storable history ∧ (history.foldl (Facts.index crates) (.created pubKey)).Accepts stored := by
  have messages : (history.foldl (Facts.index crates) (.created pubKey)).messages =
      history.map (Stored.messageFact crates) := by
    rw [Facts.foldl_index]
    rfl
  have seqs : asI64 stored.seq ∉ (history.map (Stored.messageFact crates)).map MessageFact.flumeSeq ↔
      stored.seq ∉ history.map Stored.seq := by
    rw [List.map_map]
    exact not_congr ((List.mem_map_of_injective asI64_injective).symm.trans (by rw [List.map_map]; rfl)).symm
  have keys : (history.map (Stored.messageFact crates)).map MessageFact.key = history.map Stored.key := by
    rw [List.map_map]
    rfl
  rw [Facts.Accepts, Facts.Admits, messages, seqs, keys]
  constructor
  · rintro ⟨branched, distinct, distinct'⟩
    rw [List.map_append, List.map_singleton, List.nodup_append_comm, List.singleton_append,
      List.nodup_cons] at distinct distinct'
    exact ⟨⟨fun other member => branched other (List.mem_append_left _ member), distinct.2, distinct'.2⟩,
      branched stored (by simp), distinct.1, distinct'.1⟩
  · rintro ⟨⟨branched, distinct, distinct'⟩, branch, seq, key⟩
    refine ⟨?_, ?_, ?_⟩
    · simpa [or_imp, forall_and] using ⟨branched, branch⟩
    · rw [List.map_append, List.map_singleton, ← List.concat_eq_append]
      exact distinct.concat seq
    · rw [List.map_append, List.map_singleton, ← List.concat_eq_append]
      exact distinct'.concat key

/-- What a new view makes of entries: they are all recorded, or some entry is refused. -/
theorem acceptAll_created_iff {pubKey : String} {items : List (Sequence × Bytes)} {facts : Facts} :
    (recording crates secretKeys).acceptAll items (.created pubKey) = some facts ↔
      ∃ history, items.map (Stored.read crates secretKeys) = history.map some ∧ Storable history ∧
        facts = history.foldl (Facts.index crates) (.created pubKey) := by
  induction items using List.reverseRecOn generalizing facts with
  | nil =>
    constructor
    · intro started
      cases started
      exact ⟨[], rfl, ⟨by simp, List.nodup_nil, List.nodup_nil⟩, rfl⟩
    · rintro ⟨history, reads, -, rfl⟩
      rw [List.map_nil, eq_comm, List.map_eq_nil_iff] at reads
      rw [reads]
      rfl
  | append_singleton items item ih =>
    rw [Machine.acceptAll_concat, Option.bind_eq_some_iff]
    constructor
    · rintro ⟨middle, before, accepts⟩
      obtain ⟨history, reads, storable, rfl⟩ := ih.mp before
      obtain ⟨stored, read, accepted, rfl⟩ := recording_accept_eq_some.mp accepts
      refine ⟨history ++ [stored], by simp [reads, read], (storable_concat_iff pubKey).mpr ⟨storable, accepted⟩, ?_⟩
      rw [List.foldl_append]
      rfl
    · rintro ⟨history, reads, storable, rfl⟩
      rcases history.eq_nil_or_concat with rfl | ⟨init, stored, rfl⟩
      · simp at reads
      · rw [List.concat_eq_append] at *
        rw [List.map_append, List.map_append] at reads
        obtain ⟨reads, read⟩ := List.append_inj' reads rfl
        obtain ⟨storable, accepted⟩ := (storable_concat_iff pubKey).mp storable
        refine ⟨_, ih.mpr ⟨init, reads, storable, rfl⟩, recording_accept_eq_some.mpr ⟨stored, ?_, accepted, ?_⟩⟩
        · simpa using read
        · rw [List.foldl_append]
          rfl

/-- What recording one message preserves, whether it is accepted or not, the machine preserves. -/
theorem indexing_invariant (inv : Facts → Prop)
    (indexes : ∀ facts stored, inv facts → facts.Accepts stored → inv (facts.index crates stored))
    (refuses : ∀ facts stored, inv facts → ¬ facts.Accepts stored → inv (facts.refused stored)) {facts : Facts}
    (start : inv facts) (calls : List Call) : inv ((indexing crates secretKeys).run calls facts) := by
  have entry : ∀ facts facts' item, inv facts → (recording crates secretKeys).accept facts item = some facts' →
      inv facts' := by
    intro facts facts' item holds accepted
    obtain ⟨stored, -, accepts, rfl⟩ := recording_accept_eq_some.mp accepted
    exact indexes facts stored holds accepts
  apply Machine.run_invariant _ _ calls start
  · intro facts facts' call holds accepted
    cases call with
    | append seq item => exact entry facts facts' (seq, item) holds accepted
    | appendBatch items => exact Machine.acceptAll_invariant entry accepted holds
  · intro facts call holds refused
    cases call with
    | append seq item =>
      cases read : Stored.read crates secretKeys (seq, item) with
      | none =>
        have left : (indexing crates secretKeys).refuse facts (.append seq item) = facts :=
          (recording_unread read facts).2
        rwa [left]
      | some stored =>
        have notAccepts : ¬ facts.Accepts stored := by
          intro accepts
          have accepted := recording_accept_eq_some.mpr ⟨stored, read, accepts, rfl⟩
          exact Option.some_ne_none _ (accepted.symm.trans refused)
        have left : (indexing crates secretKeys).refuse facts (.append seq item) = facts.refused stored :=
          (recording_refuses read notAccepts).2
        rw [left]
        exact refuses facts stored holds notAccepts
    | appendBatch items => exact holds

end FlumeViewSql

import FlumeViewSql.Execution.Calls
import FlumeViewSql.Index.Growth
import FlumeViewSql.Index.Simulation

/-! Histories of `append` and `append_batch` calls on a freshly created view.

A call may stop; its caller may go on. Only a call that returned has appended its items,
and a stopped one leaves `messages_raw` as it was.
-/

set_option autoImplicit false

namespace FlumeViewSql

open Execution Relational

variable {SecretKey : Type} (crates : Crates SecretKey) (secretKeys : List SecretKey)

inductive Call where
  | append (seq : Sequence) (item : Bytes)
  | appendBatch (items : List (Sequence × Bytes))

def Call.items : Call → List (Sequence × Bytes)
  | .append seq item => [(seq, item)]
  | .appendBatch items => items

def Call.perform : Call → Sql Db Unit
  | .append seq item => FlumeViewSql.append crates secretKeys seq item
  | .appendBatch items => FlumeViewSql.appendBatch crates secretKeys items

/-- The connection that `FlumeViewSql::new` returns. -/
def created (pubKey : String) : Connection Db := ⟨.created pubKey, 1⟩

/-- The message of an item under its seq, as `attempt_decryption` returned it. -/
def Stored.read (item : Sequence × Bytes) : Option Stored :=
  (readItem crates secretKeys item.2).map fun (isDecrypted, message) => ⟨item.1, isDecrypted, message⟩

/-- The connection after a history. -/
def connectionAfter (pubKey : String) (calls : List Call) : Connection Db :=
  Action.after (Call.perform crates secretKeys) calls (created pubKey)

/-- The items of the calls that returned. -/
def appended (pubKey : String) (calls : List Call) : List (Sequence × Bytes) :=
  (Action.returned (Call.perform crates secretKeys) calls (created pubKey)).flatMap Call.items

/-- The messages of these items. -/
def appendedMessages (pubKey : String) (calls : List Call) : List Stored :=
  (appended crates secretKeys pubKey calls).filterMap (Stored.read crates secretKeys)

theorem connectionAfter_append (pubKey : String) (before after : List Call) :
    connectionAfter crates secretKeys pubKey (before ++ after) =
      Action.after (Call.perform crates secretKeys) after (connectionAfter crates secretKeys pubKey before) :=
  Action.after_append _ before after _

theorem Call.grows (call : Call) : Action.Within Grown (call.perform crates secretKeys) := by
  cases call with
  | append seq item => exact (append_adds crates secretKeys seq item).grows
  | appendBatch items => exact (appendBatch_adds crates secretKeys items).grows

/-- Rows that are there after a history stay, whatever calls follow. -/
theorem history_grows (pubKey : String) (before after : List Call) :
    (connectionAfter crates secretKeys pubKey before).db.Grows
      (connectionAfter crates secretKeys pubKey (before ++ after)).db := by
  rw [connectionAfter_append]
  exact Action.after_within (Call.grows crates secretKeys) after _

/-- The message of the item can be stored beside `facts`. -/
def Facts.Accepts (facts : Facts) (stored : Stored) : Prop :=
  FlumeViewSql.branches stored.content ≠ none ∧ facts.Admits stored

/-- One item: it is recorded, or it cannot be read, or it is not accepted. -/
theorem appendItem_ends {connection : Connection Db} {facts : Facts} (represents : Represents connection.db facts)
    (item : Sequence × Bytes) :
    Action.Ends (appendItem crates secretKeys item.1 item.2) connection
      (fun _ after => ∃ stored, Stored.read crates secretKeys item = some stored ∧ facts.Accepts stored ∧
        Recorded connection.db (facts.index crates stored) after.db)
      (fun after => (Stored.read crates secretKeys item = none ∧ after = connection) ∨
        ∃ stored, Stored.read crates secretKeys item = some stored ∧
          ((branches stored.content = none ∧ Recorded connection.db (facts.linked stored) after.db) ∨
          (branches stored.content ≠ none ∧ ¬ facts.Admits stored ∧
            Recorded connection.db (facts.prepared stored) after.db))) := by
  unfold appendItem
  apply Action.Ends.bind_unwrapOption
  · intro (isDecrypted, message) found
    have read : Stored.read crates secretKeys item = some ⟨item.1, isDecrypted, message⟩ := by simp [Stored.read, found]
    apply (storeMessage_ends crates represents ⟨item.1, isDecrypted, message⟩).mono
    · exact fun _ after ⟨accepted, recorded⟩ => ⟨_, read, accepted, recorded⟩
    · exact fun after stopped => .inr ⟨_, read, stopped⟩
  · intro absent
    exact .inl ⟨by simp [Stored.read, absent], rfl⟩

/-- The items were read as `history`, and recorded after `before`. -/
structure Appended (before : Facts) (items : List (Sequence × Bytes)) (history : List Stored) (db : Db) : Prop where
  read : items.map (Stored.read crates secretKeys) = history.map some
  branched : ∀ stored ∈ history, branches stored.content ≠ none
  represents : Represents db (history.foldl (Facts.index crates) before)

theorem Stored.read_seq {item : Sequence × Bytes} {stored : Stored}
    (read : Stored.read crates secretKeys item = some stored) : stored.seq = item.1 := by
  simp only [Stored.read, Option.map_eq_some_iff] at read
  obtain ⟨found, -, rfl⟩ := read
  rfl

theorem Stored.reads_seqs {items : List (Sequence × Bytes)} {history : List Stored}
    (reads : items.map (Stored.read crates secretKeys) = history.map some) :
    history.map Stored.seq = items.map Prod.fst := by
  rw [← List.forall₂_eq_eq_eq, List.forall₂_map_left_iff, List.forall₂_map_right_iff] at reads
  rw [← List.forall₂_eq_eq_eq, List.forall₂_map_left_iff, List.forall₂_map_right_iff]
  exact reads.flip.imp fun _ _ read => Stored.read_seq crates secretKeys read

theorem Appended.seqs {before : Facts} {items : List (Sequence × Bytes)} {history : List Stored} {db : Db}
    (appended : Appended crates secretKeys before items history db) :
    history.map Stored.seq = items.map Prod.fst := Stored.reads_seqs crates secretKeys appended.read

theorem Appended.snoc {before : Facts} {items : List (Sequence × Bytes)} {history : List Stored} {db after : Db}
    {item : Sequence × Bytes} {stored : Stored} (appended : Appended crates secretKeys before items history db)
    (read : Stored.read crates secretKeys item = some stored) (branched : branches stored.content ≠ none)
    (represents : Represents after ((history.foldl (Facts.index crates) before).index crates stored)) :
    Appended crates secretKeys before (items ++ [item]) (history ++ [stored]) after where
  read := by simp [appended.read, read]
  branched := by simpa [or_imp, forall_and] using ⟨appended.branched, branched⟩
  represents := by simpa [List.foldl_append] using represents

section
variable {connection : Connection Db} {facts : Facts} (represents : Represents connection.db facts)
include represents

theorem appendItems_ends (items : List (Sequence × Bytes)) :
    Action.Ends (Action.forEach items fun item => (appendItem crates secretKeys item.1 item.2).unwrap) connection
      (fun _ after => ∃ history, Appended crates secretKeys facts items history after.db) fun _ => True := by
  apply Action.Ends.forEach fun seen (now : Connection Db) =>
    ∃ history, Appended crates secretKeys facts seen history now.db
  · exact ⟨[], rfl, by simp, represents⟩
  · intro seen item rest before parts ⟨history, appended⟩
    apply Action.Ends.unwrap
    apply (appendItem_ends crates secretKeys appended.represents item).mono
    · exact fun _ after ⟨stored, read, accepted, recorded⟩ =>
        ⟨history ++ [stored], appended.snoc crates secretKeys read accepted.1 recorded.represents⟩
    · exact fun _ _ => trivial

/-- A call appends its items, or leaves `messages_raw` as it was. -/
theorem Call.ends (call : Call) :
    Action.Ends (call.perform crates secretKeys) connection
      (fun _ after => ∃ history, Appended crates secretKeys facts call.items history after.db)
      (fun after => ∃ facts', Represents after.db facts' ∧ facts'.messages = facts.messages) := by
  cases call with
  | append seq item =>
    apply Action.Ends.unwrap
    apply (appendItem_ends crates secretKeys represents (seq, item)).mono
    · intro _ after ⟨stored, read, accepted, recorded⟩
      exact ⟨[stored], by simp [Call.items, read], by simpa using accepted.1, recorded.represents⟩
    · rintro after (⟨-, rfl⟩ | ⟨stored, -, ⟨-, recorded⟩ | ⟨-, -, recorded⟩⟩)
      · exact ⟨facts, represents, rfl⟩
      · exact ⟨facts.linked stored, recorded.represents, rfl⟩
      · exact ⟨facts.prepared stored, recorded.represents, rfl⟩
  | appendBatch items =>
    apply Action.Ends.transaction
    apply (appendItems_ends crates secretKeys represents items).mono
    · exact fun _ _ => id
    · exact fun _ _ => ⟨facts, represents, rfl⟩

end

section
variable (pubKey : String) (calls : List Call)

/-- After any history, `messages_raw` holds the items of the calls that returned. -/
theorem history_messages : ∃ facts,
    Represents (connectionAfter crates secretKeys pubKey calls).db facts ∧
      facts.messages.map some = (appended crates secretKeys pubKey calls).map fun item =>
        (Stored.read crates secretKeys item).map (Stored.messageFact crates) := by
  apply Action.calls_invariant (fun (done : List Call) (now : Connection Db) => ∃ facts,
    Represents now.db facts ∧ facts.messages.map some = (done.flatMap Call.items).map fun item =>
      (Stored.read crates secretKeys item).map (Stored.messageFact crates)) calls
  · exact ⟨.created pubKey, represents_created pubKey, rfl⟩
  · intro done call now ⟨facts, represents, messages⟩
    apply (call.ends crates secretKeys represents).mono
    · intro _ after ⟨history, appended⟩
      refine ⟨_, appended.represents, ?_⟩
      have added : call.items.map (fun item => (Stored.read crates secretKeys item).map (Stored.messageFact crates)) =
          history.map fun stored => some (stored.messageFact crates) := by
        have read := congrArg (List.map (Option.map (Stored.messageFact crates))) appended.read
        simpa [Function.comp_def] using read
      simp [Facts.foldl_index, messages, added]
    · exact fun after ⟨facts', represents', same⟩ => ⟨facts', represents', same ▸ messages⟩

/-- Every appended item could be read, and `messages_raw` holds what was read. -/
theorem history_represents :
    (appended crates secretKeys pubKey calls).map (Stored.read crates secretKeys) =
        (appendedMessages crates secretKeys pubKey calls).map some ∧
      ∃ facts, Represents (connectionAfter crates secretKeys pubKey calls).db facts ∧
        facts.messages = (appendedMessages crates secretKeys pubKey calls).map (Stored.messageFact crates) := by
  obtain ⟨facts, represents, messages⟩ := history_messages crates secretKeys pubKey calls
  obtain ⟨reads, shown⟩ := all_read messages
  exact ⟨reads, facts, represents, shown⟩

/-- When every call returns, everything the messages say has been recorded, and nothing else. -/
theorem history_facts {connection : Connection Db}
    (ran : (Action.forEach calls (Call.perform crates secretKeys)).run (created pubKey) = ⟨.ok (), connection⟩) :
    ∃ history, Appended crates secretKeys (.created pubKey) (calls.flatMap Call.items) history connection.db := by
  have ends : Action.Ends (Action.forEach calls (Call.perform crates secretKeys)) (created pubKey)
      (fun _ after => ∃ history,
        Appended crates secretKeys (.created pubKey) (calls.flatMap Call.items) history after.db) fun _ => True := by
    apply Action.Ends.forEach fun seen (now : Connection Db) => ∃ history,
      Appended crates secretKeys (.created pubKey) (seen.flatMap Call.items) history now.db
    · exact ⟨[], rfl, by simp, represents_created pubKey⟩
    · intro seen call rest before parts ⟨history, appended⟩
      apply (call.ends crates secretKeys appended.represents).mono
      · intro _ after ⟨later, added⟩
        refine ⟨history ++ later, ?_, ?_, ?_⟩
        · simp [appended.read, added.read]
        · simpa [or_imp, forall_and] using ⟨appended.branched, added.branched⟩
        · simpa [List.foldl_append] using added.represents
      · exact fun _ _ => trivial
  exact ends.ok ran

end

end FlumeViewSql

import FlumeViewSql.Contract.Messages
import FlumeViewSql.Source.Modifiers

/-! The modifiers that filter the messages view, in pairs of a condition and its negation. -/

set_option autoImplicit false

namespace FlumeViewSql

open Execution Relational
open Json (Value)

/-! ### Queries on the messages view -/

/-- `knex('messages')`, which is `SELECT * FROM messages`. -/
def allMessages : Query Cell :=
  ⟨messagesColumns.map fun column => ⟨some Modifiers.messages, column.1⟩, Modifiers.messages, [], []⟩

def MessagesViewRow.cells (row : MessagesViewRow) : List Cell := messagesColumns.map fun column => column.2 row

theorem allMessages_run (db : Db) {condition : Condition Column Cell} {resolved : Condition (String × String) Cell}
    (known : condition.resolve (Scope.one "messages" (.of messagesColumns db.messagesView)) = .ok resolved) :
    ({ allMessages with conditions := [condition] } : Query Cell).run db.view Cell.equals = .ok
      ((db.messagesView.filter fun row =>
        resolved.eval Cell.equals (Relation.cell messagesColumns row) = some true).map MessagesViewRow.cells) := by
  have selected : allMessages.columns.mapM (Scope.one "messages" (.of messagesColumns db.messagesView)).resolve =
      .ok (messagesColumns.map fun column => ("messages", column.1)) := rfl
  have tests : [condition].mapM (Condition.resolve (Scope.one "messages" (.of messagesColumns db.messagesView))) =
      .ok [resolved] := by
    rw [List.mapM_cons, known]
    rfl
  have opened : db.view "messages" = some (.of messagesColumns db.messagesView) := rfl
  rw [Query.run_one Cell.equals opened rfl selected tests]
  simp only [List.forall_mem_singleton]
  rfl

/-- Every row of the messages view is returned by exactly one of the two queries. -/
def SplitBy (db : Db) (first second : Query Cell) : Prop :=
  ∃ rows others, first.run db.view Cell.equals = .ok rows ∧ second.run db.view Cell.equals = .ok others ∧
    ∀ row ∈ db.messagesView, Xor (row.cells ∈ rows) (row.cells ∈ others)

section
variable {db : Db} {resolved : Condition (String × String) Cell}

/-- Rows that look alike pass the same tests. -/
theorem mem_returned_iff {row : MessagesViewRow} (member : row ∈ db.messagesView) :
    row.cells ∈ ((db.messagesView.filter fun row =>
        resolved.eval Cell.equals (Relation.cell messagesColumns row) = some true).map MessagesViewRow.cells) ↔
      resolved.eval Cell.equals (Relation.cell messagesColumns row) = some true := by
  constructor
  · intro returned
    obtain ⟨other, passed, same⟩ := List.mem_map.mp returned
    rw [← Relation.cell_congr same]
    exact of_decide_eq_true (List.mem_filter.mp passed).2
  · intro passes
    exact List.mem_map_of_mem (List.mem_filter.mpr ⟨member, decide_eq_true passes⟩)

theorem splitBy_iff {condition : Condition Column Cell}
    (known : condition.resolve (Scope.one "messages" (.of messagesColumns db.messagesView)) = .ok resolved) :
    SplitBy db { allMessages with conditions := [condition] } { allMessages with conditions := [.not condition] } ↔
      ∀ row ∈ db.messagesView, resolved.eval Cell.equals (Relation.cell messagesColumns row) ≠ none := by
  have negated : (Condition.not condition).resolve (Scope.one "messages" (.of messagesColumns db.messagesView)) =
      .ok (.not resolved) := by
    rw [Condition.resolve, known]
    rfl
  constructor
  · intro split row member
    obtain ⟨rows, others, ran, ran', exclusive⟩ := split
    cases (allMessages_run db known).symm.trans ran
    cases (allMessages_run db negated).symm.trans ran'
    have once := exclusive row member
    rw [mem_returned_iff member, mem_returned_iff member] at once
    exact Condition.one_kept_iff.mp once
  · intro decided
    refine ⟨_, _, allMessages_run db known, allMessages_run db negated, fun row member => ?_⟩
    rw [mem_returned_iff member, mem_returned_iff member]
    exact Condition.one_kept_iff.mpr (decided row member)

end

/-! ### The two pairs of modifiers -/

section
variable (db : Db) (typeString : String)

theorem messageType_known : (Condition.equal Modifiers.messageType (Cell.text typeString)).resolve
    (Scope.one "messages" (.of messagesColumns db.messagesView)) =
      .ok (.equal ("messages", "content_type") (.text typeString)) := rfl

/-- A message without a type compares as unknown. -/
theorem messageType_eval (row : MessagesViewRow) :
    (Condition.equal ("messages", "content_type") (Cell.text typeString)).eval Cell.equals
      (Relation.cell messagesColumns row) =
        row.contentType.map fun contentType => decide (contentType = typeString) := by
  have read : (Condition.equal ("messages", "content_type") (Cell.text typeString)).eval Cell.equals
      (Relation.cell messagesColumns row) = Cell.equals (.ofText row.contentType) (.text typeString) := rfl
  rw [read]
  cases row.contentType <;> simp [Cell.ofText, Cell.equals]

theorem splitBy_type_iff :
    SplitBy db (whereMessageType allMessages typeString) (whereMessageIsNotType allMessages typeString) ↔
      ∀ row ∈ db.messagesView, row.contentType ≠ none := by
  apply (splitBy_iff (messageType_known db typeString)).trans
  apply forall₂_congr
  intro row member
  rw [messageType_eval, ne_eq, Option.map_eq_none_iff]

/-- `is_decrypted` is never `NULL`. -/
theorem splitBy_private : SplitBy db (whereMessageIsPrivate allMessages) (whereMessageIsNotPrivate allMessages) := by
  have known : (Condition.equal Modifiers.isDecrypted (Cell.integer 1)).resolve
      (Scope.one "messages" (.of messagesColumns db.messagesView)) =
      .ok (.equal ("messages", "is_decrypted") (.integer 1)) := rfl
  apply (splitBy_iff known).mpr
  intro row member
  have read : (Condition.equal ("messages", "is_decrypted") (Cell.integer 1)).eval Cell.equals
      (Relation.cell messagesColumns row) = Cell.equals (.ofBool row.isDecrypted) (.integer 1) := rfl
  rw [read]
  simp [Cell.ofBool, Cell.equals]

theorem whereMessageType_run : (whereMessageType allMessages typeString).run db.view Cell.equals =
    .ok ((db.messagesView.filter fun row => row.contentType = some typeString).map MessagesViewRow.cells) := by
  apply (allMessages_run db (messageType_known db typeString)).trans
  congr 2
  apply List.filter_congr
  intro row member
  rw [messageType_eval]
  cases row.contentType <;> simp

end

structure FiltersExact {SecretKey : Type} (crates : Crates SecretKey) (history : List Stored) (db : Db)
    (typeString : String) : Prop where
  types : SplitBy db (whereMessageType allMessages typeString) (whereMessageIsNotType allMessages typeString)
  privacy : SplitBy db (whereMessageIsPrivate allMessages) (whereMessageIsNotPrivate allMessages)
  ofType : ∃ rows : List MessagesViewRow,
    (whereMessageType allMessages typeString).run db.view Cell.equals = .ok (rows.map MessagesViewRow.cells) ∧
      (rows.map MessagesViewRow.fact).Perm
        ((history.filter fun stored => stored.contentType = some typeString).map (Stored.messageFact crates))

section
variable {SecretKey : Type} (crates : Crates SecretKey) (secretKeys : List SecretKey) (pubKey : String)
  (calls : List Call) (connection : Connection Db)
  (ran : (Action.forEach calls (Call.perform crates secretKeys)).run (created pubKey) = ⟨.ok (), connection⟩)
include ran

theorem filters_exact_iff : ∃ history : List Stored,
    (calls.flatMap Call.items).map (Stored.read crates secretKeys) = history.map some ∧
      ∀ typeString, FiltersExact crates history connection.db typeString ↔
        ∀ stored ∈ history, stored.contentType ≠ none := by
  obtain ⟨history, appended⟩ := history_facts crates secretKeys pubKey calls ran
  have view : (connection.db.messagesView.map MessagesViewRow.fact).Perm (history.map (Stored.messageFact crates)) := by
    have listed := messagesView_perm appended.represents
    rwa [Facts.foldl_index] at listed
  have typed : (∀ row ∈ connection.db.messagesView, row.contentType ≠ none) ↔
      ∀ stored ∈ history, stored.contentType ≠ none := by
    have facts : (∀ fact ∈ connection.db.messagesView.map MessagesViewRow.fact, fact.contentType ≠ none) ↔
        ∀ fact ∈ history.map (Stored.messageFact crates), fact.contentType ≠ none := by simp only [view.mem_iff]
    rw [List.forall_mem_map, List.forall_mem_map] at facts
    exact facts
  refine ⟨history, appended.read, fun typeString => ?_⟩
  constructor
  · intro filters
    exact typed.mp ((splitBy_type_iff connection.db typeString).mp filters.types)
  · intro strings
    refine ⟨(splitBy_type_iff connection.db typeString).mpr (typed.mpr strings), splitBy_private connection.db,
      _, whereMessageType_run connection.db typeString, ?_⟩
    have chosen := view.filter fun fact => decide (fact.contentType = some typeString)
    rw [List.filter_map, List.filter_map] at chosen
    exact chosen

end

def oddContent : Value := typedContent (.number (.posInt 7))

def oddText : String := "\x7b\"type\":7\x7d"

def oddItem : Bytes := document "%a" "@b" oddText

def oddCrates : Crates Unit := .reading [(oddItem, documented "%a" "@b" oddContent)] fun _ => oddText

def oddRun : Ended SqlError (Connection Db) Unit :=
  (Action.forEach [.append 0 oddItem] (Call.perform oddCrates [])).run (created "@me")

/-- A message whose type is no string is neither of type `post` nor of another type. -/
theorem odd_type_in_neither : oddRun.outcome = .ok () ∧
    oddRun.state.db.messagesView.map MessagesViewRow.key = ["%a"] ∧
    (whereMessageType allMessages "post").run oddRun.state.db.view Cell.equals = .ok [] ∧
    (whereMessageIsNotType allMessages "post").run oddRun.state.db.view Cell.equals = .ok [] := by
  decide +kernel

theorem filters_exact_iff_odd_type : ∃ history : List Stored,
    [(0, oddItem)].map (Stored.read oddCrates []) = history.map some ∧
      ∀ typeString, FiltersExact oddCrates history oddRun.state.db typeString ↔
        ∀ stored ∈ history, stored.contentType ≠ none :=
  filters_exact_iff oddCrates [] "@me" [.append 0 oddItem] oddRun.state (Ended.eq_of_outcome (by decide +kernel))

end FlumeViewSql

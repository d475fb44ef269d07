import FlumeViewSql.Contract.Decryption
import FlumeViewSql.Contract.Filters
import FlumeViewSql.Contract.Lookups
import FlumeViewSql.Contract.Messages
import FlumeViewSql.Index.Machine

/-! What is read through queries: filters in any number and order, the lookups beside the messages
view, and what the two show of private messages.

Everything here holds after any history, calls that stop included.
-/

set_option autoImplicit false

namespace FlumeViewSql

open Execution Relational

/-! ### Filters -/

inductive MessageFilter where
  | isType (typeString : String)
  | isNotType (typeString : String)
  | isNotRoot (id : String)
  | isNotFork (id : String)
  | isPrivate
  | isNotPrivate

namespace MessageFilter

def modify (query : Query Cell) : MessageFilter → Query Cell
  | .isType typeString => whereMessageType query typeString
  | .isNotType typeString => whereMessageIsNotType query typeString
  | .isNotRoot id => whereMessageIsNotRoot query id
  | .isNotFork id => whereMessageIsNotFork query id
  | .isPrivate => whereMessageIsPrivate query
  | .isNotPrivate => whereMessageIsNotPrivate query

/-- `knex('messages')` with the modifiers applied one after another. -/
def apply (filters : List MessageFilter) : Query Cell := filters.foldl modify allMessages

/-- The messages that it lets through. One without a root has no root that is another one. -/
def keeps (message : MessageFact) : MessageFilter → Bool
  | .isType typeString => message.contentType = some typeString
  | .isNotType typeString => message.contentType.any fun contentType => contentType ≠ typeString
  | .isNotRoot id => message.root.any fun root => root ≠ id
  | .isNotFork id => message.fork.any fun fork => fork ≠ id
  | .isPrivate => message.isDecrypted
  | .isNotPrivate => !message.isDecrypted

def condition {γ : Type} (column : String → γ) : MessageFilter → Condition γ Cell
  | .isType typeString => .equal (column "content_type") (.text typeString)
  | .isNotType typeString => .not (.equal (column "content_type") (.text typeString))
  | .isNotRoot id => .not (.equal (column "root") (.text id))
  | .isNotFork id => .not (.equal (column "fork") (.text id))
  | .isPrivate => .equal (column "is_decrypted") (.integer 1)
  | .isNotPrivate => .not (.equal (column "is_decrypted") (.integer 1))

def written : MessageFilter → Condition Column Cell := condition fun name => ⟨some Modifiers.messages, name⟩

def resolved : MessageFilter → Condition (String × String) Cell := condition fun name => ("messages", name)

theorem modify_eq (query : Query Cell) (filter : MessageFilter) :
    modify query filter = { query with conditions := query.conditions ++ [filter.written] } := by
  cases filter <;> rfl

theorem apply_eq (filters : List MessageFilter) :
    apply filters = { allMessages with conditions := filters.map written } := by
  -- The conditions come one behind another.
  suffices general : ∀ query : Query Cell, filters.foldl modify query =
      { query with conditions := query.conditions ++ filters.map written } from general allMessages
  induction filters with
  | nil => simp
  | cons filter rest ih =>
    intro query
    rw [List.foldl_cons, modify_eq, ih]
    simp

theorem written_known (db : Db) (filters : List MessageFilter) :
    (filters.map written).mapM (Condition.resolve (Scope.one "messages" (.of messagesColumns db.messagesView))) =
      .ok (filters.map resolved) := by
  induction filters with
  | nil => rfl
  | cons filter rest ih =>
    have known : filter.written.resolve (Scope.one "messages" (.of messagesColumns db.messagesView)) =
        .ok filter.resolved := by
      cases filter <;> rfl
    rw [List.map_cons, List.mapM_cons, known, ih]
    rfl

theorem equals_ofText (text : Option String) (other : String) :
    Cell.equals (.ofText text) (.text other) = text.map fun value => decide (value = other) := by
  cases text <;> simp [Cell.ofText, Cell.equals]

theorem equals_ofBool (truth : Bool) : Cell.equals (.ofBool truth) (.integer 1) = some truth := by
  cases truth <;> rfl

theorem resolved_iff_keeps (row : MessagesViewRow) (filter : MessageFilter) :
    filter.resolved.eval Cell.equals (Relation.cell messagesColumns row) = some true ↔
      filter.keeps row.fact = true := by
  cases filter with
  | isType typeString =>
    change Cell.equals (.ofText row.contentType) (.text typeString) = some true ↔
      decide (row.contentType = some typeString) = true
    rw [equals_ofText]
    simp
  | isNotType typeString =>
    change (Cell.equals (.ofText row.contentType) (.text typeString)).not = some true ↔
      (row.contentType.any fun contentType => contentType ≠ typeString) = true
    rw [equals_ofText]
    cases row.contentType <;> simp [Truth.not]
  | isNotRoot id =>
    change (Cell.equals (.ofText row.root) (.text id)).not = some true ↔ (row.root.any fun root => root ≠ id) = true
    rw [equals_ofText]
    cases row.root <;> simp [Truth.not]
  | isNotFork id =>
    change (Cell.equals (.ofText row.fork) (.text id)).not = some true ↔ (row.fork.any fun fork => fork ≠ id) = true
    rw [equals_ofText]
    cases row.fork <;> simp [Truth.not]
  | isPrivate =>
    change Cell.equals (.ofBool row.isDecrypted) (.integer 1) = some true ↔ row.isDecrypted = true
    rw [equals_ofBool, Option.some_inj]
  | isNotPrivate =>
    change (Cell.equals (.ofBool row.isDecrypted) (.integer 1)).not = some true ↔ (!row.isDecrypted) = true
    rw [equals_ofBool]
    simp [Truth.not]

theorem apply_run (db : Db) (filters : List MessageFilter) : (apply filters).run db.view Cell.equals =
    .ok ((db.messagesView.filter fun row => filters.all (keeps row.fact)).map MessagesViewRow.cells) := by
  have selected : allMessages.columns.mapM (Scope.one "messages" (.of messagesColumns db.messagesView)).resolve =
      .ok (messagesColumns.map fun column => ("messages", column.1)) := rfl
  have opened : db.view "messages" = some (.of messagesColumns db.messagesView) := rfl
  rw [apply_eq, Query.run_one Cell.equals opened rfl selected (written_known db filters)]
  congr 2
  · apply List.filter_congr
    intro row _
    rw [Bool.eq_iff_iff, decide_eq_true_iff, List.forall_mem_map, List.all_eq_true]
    exact forall₂_congr fun filter _ => resolved_iff_keeps row filter

end MessageFilter

section
variable {SecretKey : Type} (crates : Crates SecretKey) (secretKeys : List SecretKey) (pubKey : String)
  (calls : List Call)

/-- Filters return the messages that all of them keep, whatever their order and however often each of
them is applied. -/
theorem filters_compose (filters : List MessageFilter) :
    (∃ rows : List MessagesViewRow,
      (MessageFilter.apply filters).run (connectionAfter crates secretKeys pubKey calls).db.view Cell.equals =
          .ok (rows.map MessagesViewRow.cells) ∧
        rows.map MessagesViewRow.fact =
          ((indexing crates secretKeys).run calls (.created pubKey)).bySeq.filter fun message =>
            filters.all (MessageFilter.keeps message)) ∧
    ∀ others : List MessageFilter, (∀ filter, filter ∈ filters ↔ filter ∈ others) →
      (MessageFilter.apply others).run (connectionAfter crates secretKeys pubKey calls).db.view Cell.equals =
        (MessageFilter.apply filters).run (connectionAfter crates secretKeys pubKey calls).db.view Cell.equals := by
  obtain ⟨represents, -⟩ := history_follows crates secretKeys pubKey calls
  constructor
  · refine ⟨_, MessageFilter.apply_run _ filters, ?_⟩
    rw [← messagesView_facts represents, List.filter_map]
    rfl
  · intro others same
    rw [MessageFilter.apply_run, MessageFilter.apply_run]
    congr 2
    apply List.filter_congr
    intro row _
    rw [Bool.eq_iff_iff, List.all_eq_true, List.all_eq_true]
    exact forall_congr' fun filter => imp_congr_left (same filter).symm

/-! ### Lookups -/

structure LookupsAgree (db : Db) : Prop where
  byKey : ∀ key, getSeqsByKey db key = (db.messagesView.filter fun row => row.key = key).map (·.flumeSeq)
  byType : ∀ contentType, getSeqsByType db contentType =
    (db.messagesView.filter fun row => row.contentType = some contentType).map (·.flumeSeq)
  byAuthor : ∀ author, getSeqsByAuthor db author =
    (db.messagesView.filter fun row => row.author = author).map (·.flumeSeq)
  single : ∀ key, getSeqByKey db key =
    (((db.messagesView.find? fun row => row.key = key).map (·.flumeSeq)).elim (.error .queryReturnedNoRows) .ok)
  latest : getLatest db = asSequence ((db.messagesView.map (·.flumeSeq)).max?.getD 0)

theorem seqs_shown {db : Db} {facts : Facts} (represents : Represents db facts) (condition : MessageFact → Bool) :
    (db.messagesView.filter fun row => condition row.fact).map (·.flumeSeq) =
      (facts.bySeq.filter condition).map MessageFact.flumeSeq := by
  rw [← messagesView_facts represents, List.filter_map, List.map_map]
  rfl

theorem lookups_agree : LookupsAgree (connectionAfter crates secretKeys pubKey calls).db := by
  obtain ⟨represents, -⟩ := history_follows crates secretKeys pubKey calls
  generalize (connectionAfter crates secretKeys pubKey calls).db = db at represents ⊢
  have byKey : ∀ key, getSeqsByKey db key = (db.messagesView.filter fun row => row.key = key).map (·.flumeSeq) := by
    intro key
    rw [getSeqsByKey_facts represents]
    exact (seqs_shown represents fun message => message.key = key).symm
  refine ⟨byKey, fun contentType => ?_, fun author => ?_, fun key => ?_, ?_⟩
  · rw [getSeqsByType_facts represents]
    exact (seqs_shown represents fun message => message.contentType = some contentType).symm
  · rw [getSeqsByAuthor_facts represents]
    exact (seqs_shown represents fun message => message.author = author).symm
  · rw [getSeqByKey, byKey, ← List.head?_filter]
    cases db.messagesView.filter fun row => row.key = key <;> rfl
  · have all := congrArg (List.map MessageFact.flumeSeq) (messagesView_facts represents)
    rw [List.map_map] at all
    rw [getLatest, Table.lastRowid, represents.flumeSeqs, ← all]
    rfl

/-! ### Private messages -/

/-- What a row shows of a message as it was logged. -/
structure Discloses (message : SsbMessage) (row : MessagesViewRow) : Prop where
  key : row.key = message.key
  author : row.author = message.value.author
  marked : row.isDecrypted = true ↔ ∃ bytes, crates.boxBytes message.value.content = some bytes ∧
    ∃ secretKey ∈ secretKeys, crates.opens bytes secretKey = true
  /-- Then it shows what the first such key finds in the box. -/
  plaintext : row.isDecrypted = true → ∃ bytes secretKey, crates.boxBytes message.value.content = some bytes ∧
    secretKeys.find? (crates.opens bytes) = some secretKey ∧
    row.content = crates.contentCell (crates.plaintext bytes secretKey)
  /-- Else it shows what was logged, or nothing of it. -/
  logged : row.isDecrypted = false → row.content = crates.contentCell message.value.content ∨
    row.content = crates.contentCell .null

theorem Stored.read_discloses {item : Sequence × Bytes} {stored : Stored}
    (read : Stored.read crates secretKeys item = some stored) {row : MessagesViewRow}
    (shown : row.fact = stored.messageFact crates) : ∃ message, crates.messageFromSlice item.2 = some message ∧
      row.flumeSeq = asI64 item.1 ∧ Discloses crates secretKeys message row := by
  simp only [Stored.read, readItem, Option.bind_eq_bind, Option.map_eq_some_iff, Option.bind_eq_some_iff] at read
  obtain ⟨⟨isDecrypted, decrypted⟩, ⟨message, parsed, decrypts⟩, rfl⟩ := read
  simp only [MessagesViewRow.fact, Stored.messageFact, MessageFact.mk.injEq] at shown
  obtain ⟨flumeSeq, key, -, -, -, -, -, author, -, content, marked⟩ := shown
  refine ⟨message, parsed, flumeSeq, ?_⟩
  cases box : crates.boxBytes message.value.content with
  | some bytes =>
    rw [attemptDecryption_box box, Option.some_inj, Prod.mk.injEq] at decrypts
    obtain ⟨rfl, rfl⟩ := decrypts
    cases found : secretKeys.find? (crates.opens bytes) with
    | some secretKey =>
      rw [found] at marked content
      have opened : ∃ secretKey ∈ secretKeys, crates.opens bytes secretKey = true :=
        ⟨secretKey, List.mem_of_find?_eq_some found, List.find?_some found⟩
      refine ⟨key, author, iff_of_true marked ⟨bytes, box, opened⟩,
        fun _ => ⟨bytes, secretKey, box, found, content⟩, ?_⟩
      intro unmarked
      cases marked.symm.trans unmarked
    | none =>
      rw [found] at marked content
      have closed : ¬ ∃ other, crates.boxBytes message.value.content = some other ∧
          ∃ secretKey ∈ secretKeys, crates.opens other secretKey = true := by
        rintro ⟨other, same, secretKey, member, opens⟩
        cases box.symm.trans same
        exact List.find?_eq_none.mp found secretKey member opens
      refine ⟨key, author, iff_of_false (by simp [marked]) closed, fun decrypted => ?_, fun _ => ?_⟩
      · cases marked.symm.trans decrypted
      · by_cases empty : secretKeys = []
        · exact .inl (content.trans (by simp [empty]; rfl))
        · exact .inr (content.trans (by simp [empty]; rfl))
  | none =>
    have typed : message.value.content.index "type" ≠ .null := by
      intro untyped
      rw [attemptDecryption_untyped untyped, box] at decrypts
      cases decrypts
    rw [attemptDecryption_typed typed, Option.some_inj, Prod.mk.injEq] at decrypts
    obtain ⟨rfl, rfl⟩ := decrypts
    refine ⟨key, author, iff_of_false (by simp [marked]) (by simp [box]), fun decrypted => ?_, fun _ => .inl content⟩
    cases marked.symm.trans decrypted

theorem messagesView_discloses {row : MessagesViewRow}
    (member : row ∈ (connectionAfter crates secretKeys pubKey calls).db.messagesView) :
    ∃ item ∈ appended crates secretKeys pubKey calls, ∃ message, crates.messageFromSlice item.2 = some message ∧
      row.flumeSeq = asI64 item.1 ∧ Discloses crates secretKeys message row := by
  obtain ⟨-, facts, represents, messages⟩ := history_represents crates secretKeys pubKey calls
  have listed := (messagesView_perm represents).subset (List.mem_map_of_mem member)
  rw [messages] at listed
  obtain ⟨stored, appendedIt, shown⟩ := List.mem_map.mp listed
  obtain ⟨item, present, read⟩ := List.mem_filterMap.mp appendedIt
  exact ⟨item, present, Stored.read_discloses crates secretKeys read shown.symm⟩

theorem contents_disclosed : ∀ row ∈ (connectionAfter crates secretKeys pubKey calls).db.messagesView,
    ∃ item ∈ appended crates secretKeys pubKey calls, ∃ message, crates.messageFromSlice item.2 = some message ∧
      row.flumeSeq = asI64 item.1 ∧ Discloses crates secretKeys message row :=
  fun _ => messagesView_discloses crates secretKeys pubKey calls

end

/-- The row of a box that the first key does not open, and the second does. -/
def boxRow : MessagesViewRow where
  keyId := 1
  seq := 1
  receivedTime := 0
  assertedTime := 0
  rootId := none
  forkId := none
  authorId := 2
  contentType := none
  content := .integer 1
  isDecrypted := true
  flumeSeq := 0
  key := "%d"
  root := none
  fork := none
  author := "@b"

theorem contents_disclosed_box : ∃ item ∈ appended boxCrates [false, true] "@me" [.append 0 boxItem], ∃ message,
    boxCrates.messageFromSlice item.2 = some message ∧ boxRow.flumeSeq = asI64 item.1 ∧
      Discloses boxCrates [false, true] message boxRow :=
  contents_disclosed boxCrates [false, true] "@me" [.append 0 boxItem] boxRow (by decide +kernel)

section
variable {SecretKey : Type} (crates : Crates SecretKey) (secretKeys : List SecretKey) (pubKey : String)
  (calls : List Call)

theorem private_hidden {filters : List MessageFilter} (hidden : .isNotPrivate ∈ filters) :
    ∃ rows : List MessagesViewRow,
      (MessageFilter.apply filters).run (connectionAfter crates secretKeys pubKey calls).db.view Cell.equals =
          .ok (rows.map MessagesViewRow.cells) ∧
      ∀ row ∈ rows, ∃ item ∈ appended crates secretKeys pubKey calls, ∃ message,
        crates.messageFromSlice item.2 = some message ∧ row.flumeSeq = asI64 item.1 ∧
          (∀ bytes, crates.boxBytes message.value.content = some bytes →
            ∀ secretKey ∈ secretKeys, crates.opens bytes secretKey = false) ∧
          (row.content = crates.contentCell message.value.content ∨ row.content = crates.contentCell .null) := by
  refine ⟨_, MessageFilter.apply_run _ filters, fun row returned => ?_⟩
  obtain ⟨member, kept⟩ := List.mem_filter.mp returned
  obtain ⟨item, present, message, parsed, flumeSeq, discloses⟩ :=
    messagesView_discloses crates secretKeys pubKey calls member
  have unmarked : row.isDecrypted = false := by
    have passed := List.all_eq_true.mp kept .isNotPrivate hidden
    simpa [MessageFilter.keeps, MessagesViewRow.fact] using passed
  refine ⟨item, present, message, parsed, flumeSeq, fun bytes box secretKey known => ?_, discloses.logged unmarked⟩
  by_contra opens
  have marked := discloses.marked.mpr ⟨bytes, box, secretKey, known, by simpa using opens⟩
  cases unmarked.symm.trans marked

end

def boxCalls : List Call := [.append 0 boxItem, .append 274 postItem]

theorem private_hidden_box : ∃ rows : List MessagesViewRow,
    (MessageFilter.apply [.isNotPrivate, .isType "post"]).run
        (connectionAfter boxCrates [true] "@me" boxCalls).db.view Cell.equals = .ok (rows.map MessagesViewRow.cells) ∧
    ∀ row ∈ rows, ∃ item ∈ appended boxCrates [true] "@me" boxCalls, ∃ message,
      boxCrates.messageFromSlice item.2 = some message ∧ row.flumeSeq = asI64 item.1 ∧
        (∀ bytes, boxCrates.boxBytes message.value.content = some bytes →
          ∀ secretKey ∈ [true], boxCrates.opens bytes secretKey = false) ∧
        (row.content = boxCrates.contentCell message.value.content ∨ row.content = boxCrates.contentCell .null) :=
  private_hidden boxCrates [true] "@me" boxCalls List.mem_cons_self

end FlumeViewSql

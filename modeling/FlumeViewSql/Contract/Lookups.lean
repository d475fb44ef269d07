import FlumeViewSql.Contract.Messages

/-! The lookups of the view over any history, calls that stop included.

A key may be interned long before its message is appended, or without one ever being; only
rows of `messages_raw` are looked up. The seqs of a history are `i64`s here.
-/

set_option autoImplicit false

namespace FlumeViewSql

open Execution Relational

/-! ### What each query reads -/

section
variable {db : Db} {facts : Facts} (represents : Represents db facts)
include represents

theorem getSeqsByKey_facts (key : String) :
    getSeqsByKey db key = (facts.bySeq.filter fun message => message.key = key).map MessageFact.flumeSeq := by
  apply selects_of_forall₂ represents.messages
  intro row fact means
  obtain ⟨joined, keyRow, same⟩ := means.key.join
  simp only [Db.names] at keyRow
  by_cases selected : fact.key = key <;> simp [keyRow, same, selected, means.flumeSeq]

theorem getSeqsByAuthor_facts (author : String) :
    getSeqsByAuthor db author =
      (facts.bySeq.filter fun message => message.author = author).map MessageFact.flumeSeq := by
  apply selects_of_forall₂ represents.messages
  intro row fact means
  obtain ⟨joined, authorRow, same⟩ := means.author.join
  simp only [Db.names] at authorRow
  by_cases selected : fact.author = author <;> simp [authorRow, same, selected, means.flumeSeq]

theorem getSeqsByType_facts (contentType : String) :
    getSeqsByType db contentType =
      (facts.bySeq.filter fun message => message.contentType = some contentType).map MessageFact.flumeSeq := by
  apply represents.flumeSeqs_filter
  intro row fact means
  rw [means.contentType]

end

/-! ### What a history makes of them -/

/-- The lookups find the messages of `history`, and nothing else. -/
structure LooksUp (history : List Stored) (db : Db) : Prop where
  /-- Any string that is not the key of a message is answered with an error. -/
  byKey : ∀ key flumeSeq, getSeqByKey db key = .ok flumeSeq ↔
    ∃ stored ∈ history, stored.key = key ∧ flumeSeq = stored.seq.toNat
  byType : ∀ contentType, (getSeqsByType db contentType).Nodup ∧ ∀ flumeSeq,
    flumeSeq ∈ getSeqsByType db contentType ↔
      ∃ stored ∈ history, stored.contentType = some contentType ∧ flumeSeq = stored.seq.toNat
  byAuthor : ∀ author, (getSeqsByAuthor db author).Nodup ∧ ∀ flumeSeq,
    flumeSeq ∈ getSeqsByAuthor db author ↔ ∃ stored ∈ history, stored.author = author ∧ flumeSeq = stored.seq.toNat
  latest : (history = [] ∧ getLatest db = 0) ∨
    ((∃ stored ∈ history, stored.seq = getLatest db) ∧ ∀ stored ∈ history, stored.seq ≤ getLatest db)

/-- SQLite holds every seq of the calls unchanged. -/
def SeqsFit (calls : List Call) : Prop := ∀ call ∈ calls, ∀ item ∈ call.items, item.1.toNat < 2 ^ 63

section
variable {SecretKey : Type} {crates : Crates SecretKey} {history : List Stored} {db : Db} {facts : Facts}
  (represents : Represents db facts) (messages : facts.messages = history.map (Stored.messageFact crates))
  (fits : ∀ stored ∈ history, stored.seq.toNat < 2 ^ 63)
include represents messages

theorem history_rowids :
    (db.messagesRaw.rows.map Prod.fst).Perm (history.map fun stored => asI64 stored.seq) := by
  have rows := represents.flumeSeqs_perm
  rwa [messages, List.map_map] at rows

include fits

theorem seqs_selected (onFact : MessageFact → Prop) [DecidablePred onFact] :
    ((facts.bySeq.filter onFact).map MessageFact.flumeSeq).Nodup ∧ ∀ flumeSeq,
      flumeSeq ∈ (facts.bySeq.filter onFact).map MessageFact.flumeSeq ↔
        ∃ stored ∈ history, onFact (stored.messageFact crates) ∧ flumeSeq = stored.seq.toNat := by
  constructor
  · have rowids := db.messagesRaw.rowids
    rw [represents.flumeSeqs] at rowids
    exact rowids.sublist (List.filter_sublist.map _)
  · intro flumeSeq
    rw [((facts.bySeq_perm.filter _).map MessageFact.flumeSeq).mem_iff, messages]
    constructor
    · intro listed
      obtain ⟨fact, chosen, rfl⟩ := List.mem_map.mp listed
      obtain ⟨present, holds⟩ := List.mem_filter.mp chosen
      obtain ⟨stored, member, rfl⟩ := List.mem_map.mp present
      exact ⟨stored, member, of_decide_eq_true holds, asI64_of_lt (fits stored member)⟩
    · intro ⟨stored, member, holds, same⟩
      have chosen : stored.messageFact crates ∈ (history.map (Stored.messageFact crates)).filter onFact :=
        List.mem_filter.mpr ⟨List.mem_map_of_mem member, decide_eq_true holds⟩
      rw [same, ← asI64_of_lt (fits stored member)]
      exact List.mem_map.mpr ⟨stored.messageFact crates, chosen, rfl⟩

theorem getSeqByKey_history (key : String) (flumeSeq : Int) : getSeqByKey db key = .ok flumeSeq ↔
    ∃ stored ∈ history, stored.key = key ∧ flumeSeq = stored.seq.toNat := by
  have selected := (seqs_selected represents messages fits fun message => message.key = key).2 flumeSeq
  have single : ∀ fact ∈ facts.messages, fact.key = key → getSeqsByKey db key = [fact.flumeSeq] := by
    rintro fact present rfl
    rw [getSeqsByKey_facts represents, represents.bySeq_filter_key,
      filter_eq_singleton represents.messageKeys_nodup present, List.map_singleton]
  constructor
  · intro found
    apply selected.mp
    rw [← getSeqsByKey_facts represents]
    unfold getSeqByKey at found
    split at found
    · next first rest listed =>
      cases found
      exact listed ▸ List.mem_cons_self
    · cases found
  · intro ⟨stored, member, same, seq⟩
    have present : stored.messageFact crates ∈ facts.messages := messages ▸ List.mem_map_of_mem member
    rw [getSeqByKey, single _ present same, seq, ← asI64_of_lt (fits stored member)]
    rfl

theorem getLatest_history : (history = [] ∧ getLatest db = 0) ∨
    ((∃ stored ∈ history, stored.seq = getLatest db) ∧ ∀ stored ∈ history, stored.seq ≤ getLatest db) := by
  rw [getLatest, Table.lastRowid, max?_perm (history_rowids represents messages)]
  cases found : (history.map fun stored => asI64 stored.seq).max? with
  | none =>
    have empty : history = [] := by simpa [List.max?_eq_none_iff] using found
    exact .inl ⟨empty, rfl⟩
  | some largest =>
    obtain ⟨listed, above⟩ := List.max?_eq_some_iff.mp found
    obtain ⟨last, member, rfl⟩ := List.mem_map.mp listed
    rw [Option.getD_some, asSequence_asI64]
    refine .inr ⟨⟨last, member, rfl⟩, fun stored present => ?_⟩
    have order := above (asI64 stored.seq) (List.mem_map_of_mem present)
    rw [asI64_of_lt (fits stored present), asI64_of_lt (fits last member)] at order
    apply UInt64.le_iff_toNat_le.mpr
    omega

theorem looksUp : LooksUp history db where
  byKey := getSeqByKey_history represents messages fits
  byType contentType := by
    rw [getSeqsByType_facts represents]
    exact seqs_selected represents messages fits _
  byAuthor author := by
    rw [getSeqsByAuthor_facts represents]
    exact seqs_selected represents messages fits _
  latest := getLatest_history represents messages fits

end

section
variable {SecretKey : Type} (crates : Crates SecretKey) (secretKeys : List SecretKey) (pubKey : String)

theorem appendedMessages_append (before after : List Call) :
    appendedMessages crates secretKeys pubKey before <+:
      appendedMessages crates secretKeys pubKey (before ++ after) := by
  rw [appendedMessages, appendedMessages, appended, appended, Action.returned_append, List.flatMap_append,
    List.filterMap_append]
  exact List.prefix_append _ _

/-- Only calls append messages, so their seqs fit too. -/
theorem appendedMessages_fit {calls : List Call} (fits : SeqsFit calls) :
    ∀ stored ∈ appendedMessages crates secretKeys pubKey calls, stored.seq.toNat < 2 ^ 63 := by
  intro stored member
  obtain ⟨item, present, read⟩ := List.mem_filterMap.mp member
  obtain ⟨call, returned, listed⟩ := List.mem_flatMap.mp present
  rw [Stored.read_seq crates secretKeys read]
  exact fits call ((Action.returned_sublist _ calls _).subset returned) item listed

theorem lookups_exact (calls : List Call) (fits : SeqsFit calls) :
    LooksUp (appendedMessages crates secretKeys pubKey calls) (connectionAfter crates secretKeys pubKey calls).db ∧
      ∀ before after, calls = before ++ after →
        getLatest (connectionAfter crates secretKeys pubKey before).db ≤
          getLatest (connectionAfter crates secretKeys pubKey calls).db := by
  have lookups : ∀ calls, SeqsFit calls → LooksUp (appendedMessages crates secretKeys pubKey calls)
      (connectionAfter crates secretKeys pubKey calls).db := by
    intro calls fits
    obtain ⟨-, facts, represents, messages⟩ := history_represents crates secretKeys pubKey calls
    exact looksUp represents messages (appendedMessages_fit crates secretKeys pubKey fits)
  refine ⟨lookups calls fits, ?_⟩
  rintro before after rfl
  have earlier := lookups before fun call member => fits call (List.mem_append_left after member)
  rcases earlier.latest with ⟨-, none⟩ | ⟨⟨stored, member, latest⟩, -⟩
  · rw [none]
    exact UInt64.zero_le
  · have kept := (appendedMessages_append crates secretKeys pubKey before after).subset member
    rw [← latest]
    rcases (lookups (before ++ after) fits).latest with ⟨empty, -⟩ | ⟨-, above⟩
    · rw [empty] at kept
      cases kept
    · exact above stored kept

end

def lookupItem : Bytes := document "%a" "@b" (linkText "%c")

def lookupCrates : Crates Unit :=
  .reading [(lookupItem, documented "%a" "@b" (linkContent "%c"))] fun _ => linkText "%c"

/-- The second call is refused. -/
def lookupCalls : List Call := [.append 7 lookupItem, .append 3 lookupItem]

instance (calls : List Call) : Decidable (SeqsFit calls) := inferInstanceAs (Decidable (∀ call ∈ calls, _))

theorem lookups_exact_refused :
    LooksUp (appendedMessages lookupCrates [] "@me" lookupCalls)
        (connectionAfter lookupCrates [] "@me" lookupCalls).db ∧
      ∀ before after, lookupCalls = before ++ after →
        getLatest (connectionAfter lookupCrates [] "@me" before).db ≤
          getLatest (connectionAfter lookupCrates [] "@me" lookupCalls).db :=
  lookups_exact lookupCrates [] "@me" lookupCalls (by decide)

example : getSeqsByKey (connectionAfter lookupCrates [] "@me" lookupCalls).db "%a" = [7] ∧
    getSeqsByKey (connectionAfter lookupCrates [] "@me" lookupCalls).db "%c" = [] := by
  decide +kernel

end FlumeViewSql

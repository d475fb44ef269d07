import FlumeViewSql.Contract.Integrity
import FlumeViewSql.Contract.Lookups

/-! What stays: the view over a history and any continuation of it.

Nothing that was shown is taken back or shown differently, whatever the calls behind it are and
however they end, and an entry whose offset or key was appended is refused from then on.
-/

set_option autoImplicit false

namespace FlumeViewSql

open Execution Relational

/-! ### Views -/

/-- What was shown is shown in the same order, and edges behind the earlier ones. A message stands where
its seq belongs. -/
structure ViewsGrow (before after : Db) : Prop where
  messages : before.messagesView.Sublist after.messagesView
  links : before.linksView <+: after.linksView
  blobLinks : before.blobLinksView <+: after.blobLinksView
  abouts : before.aboutsView <+: after.aboutsView
  branches : before.resolvedBranches <+: after.resolvedBranches
  contacts : before.resolvedContacts <+: after.resolvedContacts
  /-- An author may come to have the number of an earlier mention. -/
  mentions : before.mentionsView.Sublist after.mentionsView
  byKey : ∀ key flumeSeq, getSeqByKey before key = .ok flumeSeq → getSeqByKey after key = .ok flumeSeq
  byType : ∀ contentType, (getSeqsByType before contentType).Sublist (getSeqsByType after contentType)
  byAuthor : ∀ author, (getSeqsByAuthor before author).Sublist (getSeqsByAuthor after author)

theorem join_sublist {ρ κ : Type} {unique : ρ → Option κ} {before after : Table ρ κ unique}
    (grows : before.rows <+: after.rows) (rowid : Int) : (before.join rowid).Sublist (after.join rowid) :=
  (grows.sublist.filter _).map _

theorem joins_grow {ρ ρ₁ ρ₂ S : Type} {text₁ : ρ₁ → String} {text₂ : ρ₂ → String}
    {froms froms' : Dictionary ρ₁ String text₁} {targets targets' : Dictionary ρ₂ String text₂}
    {rows rows' : List (Int × ρ)} (fromId toId : ρ → Int) (shown : Int × ρ → ρ₁ → ρ₂ → S) (longer : rows <+: rows')
    (grown : froms.Extends froms') (grown' : targets.Extends targets')
    (resolved : ∀ row ∈ rows, ∃ fact : String × String,
      froms.Maps (fromId row.2) fact.1 ∧ targets.Maps (toId row.2) fact.2) :
    (rows.flatMap fun row =>
        (froms.join (fromId row.2)).flatMap fun key => (targets.join (toId row.2)).map (shown row key)) <+:
      rows'.flatMap fun row =>
        (froms'.join (fromId row.2)).flatMap fun key => (targets'.join (toId row.2)).map (shown row key) := by
  apply flatMap_prefix longer
  intro row member
  obtain ⟨fact, fromKey, toKey⟩ := resolved row member
  rw [fromKey.join_eq grown, toKey.join_eq grown']

section
variable {before after : Db} {facts : Facts} (represents : Represents before facts) (grows : before.Grows after)
include represents grows

theorem messagesView_grows : before.messagesView.Sublist after.messagesView := by
  apply flatMap_sublist grows.messagesRaw
  intro ⟨flumeSeq, message⟩ member
  obtain ⟨fact, -, means⟩ := exists_fact_of_forall₂ represents.messages member
  have key : before.keys.join message.keyId = after.keys.join message.keyId := means.key.join_eq grows.keys
  have root : before.keys.leftJoin message.rootId = after.keys.leftJoin message.rootId :=
    Dictionary.Maps.leftJoin_eq grows.keys means.root
  have fork : before.keys.leftJoin message.forkId = after.keys.leftJoin message.forkId :=
    Dictionary.Maps.leftJoin_eq grows.keys means.fork
  have author : before.authors.join message.authorId = after.authors.join message.authorId :=
    means.author.join_eq grows.authors
  simp only [key, root, fork, author]

theorem linksView_grows : before.linksView <+: after.linksView := by
  apply joins_grow LinkRow.linkFromKeyId LinkRow.linkToKeyId
    (fun row key key2 => LinksViewRow.mk row.2 row.1 key.key key2.key) grows.linksRaw grows.keys grows.keys
  exact fun row member => (exists_fact_of_forall₂ represents.links member).imp fun _ found => found.2

theorem blobLinksView_grows : before.blobLinksView <+: after.blobLinksView := by
  apply joins_grow BlobLinkRow.linkFromKeyId BlobLinkRow.linkToBlobId
    (fun row key blob => BlobLinksViewRow.mk row.2 row.1 key.key blob.blob) grows.blobLinksRaw grows.keys grows.blobs
  exact fun row member => (exists_fact_of_forall₂ represents.blobLinks member).imp fun _ found => found.2

theorem resolvedBranches_grow : before.resolvedBranches <+: after.resolvedBranches := by
  apply joins_grow BranchRow.linkFromKeyId BranchRow.linkToKeyId (fun _ key key2 => (key.key, key2.key))
    grows.branchesRaw grows.keys grows.keys
  exact fun row member => (exists_fact_of_forall₂ represents.branches member).imp fun _ found => found.2

theorem resolvedContacts_grow : before.resolvedContacts <+: after.resolvedContacts := by
  apply joins_grow ContactRow.authorId ContactRow.contactAuthorId
    (fun row author other => (author.author, other.author, row.2.isDecrypted, row.2.state))
    grows.contactsRaw grows.authors grows.authors
  intro row member
  obtain ⟨fact, -, means⟩ := exists_fact_of_forall₂ represents.contacts member
  exact ⟨(fact.1, fact.2.1), means.author, means.contact⟩

theorem mentionsView_grows : before.mentionsView.Sublist after.mentionsView := by
  apply (List.Sublist.flatMap_right _ _).trans (grows.mentionsRaw.sublist.flatMap _)
  intro ⟨id, mention⟩ member
  obtain ⟨fact, -, fromKey, -⟩ := exists_fact_of_forall₂ represents.mentions member
  have key : before.keys.join mention.linkFromKeyId = after.keys.join mention.linkFromKeyId :=
    fromKey.join_eq grows.keys
  simp only [key]
  apply List.Sublist.flatMap_right
  intro key _
  apply (List.Sublist.flatMap_right _ _).trans ((join_sublist grows.authors _).flatMap _)
  intro author _
  exact (grows.messagesRaw.filter _).map _

theorem getSeqsByKey_grow (key : String) : (getSeqsByKey before key).Sublist (getSeqsByKey after key) := by
  apply flatMap_sublist grows.messagesRaw
  intro ⟨flumeSeq, message⟩ member
  obtain ⟨fact, -, means⟩ := exists_fact_of_forall₂ represents.messages member
  have joined : before.keys.join message.keyId = after.keys.join message.keyId := means.key.join_eq grows.keys
  simp only [joined]

theorem getSeqsByAuthor_grow (author : String) :
    (getSeqsByAuthor before author).Sublist (getSeqsByAuthor after author) := by
  apply flatMap_sublist grows.messagesRaw
  intro ⟨flumeSeq, message⟩ member
  obtain ⟨fact, -, means⟩ := exists_fact_of_forall₂ represents.messages member
  have joined : before.authors.join message.authorId = after.authors.join message.authorId :=
    means.author.join_eq grows.authors
  simp only [joined]

omit represents in
theorem getSeqsByType_grow (contentType : String) :
    (getSeqsByType before contentType).Sublist (getSeqsByType after contentType) := (grows.messagesRaw.filter _).map _

/-- No later message gets a key that has one. -/
theorem getSeqByKey_stays {facts' : Facts} (represents' : Represents after facts') {key : String} {flumeSeq : Int}
    (found : getSeqByKey before key = .ok flumeSeq) : getSeqByKey after key = .ok flumeSeq := by
  have grown := getSeqsByKey_grow represents grows key
  have single : (getSeqsByKey after key).length ≤ 1 := by
    rw [getSeqsByKey_facts represents', represents'.bySeq_filter_key, List.length_map]
    rcases filter_nil_or_singleton represents'.messageKeys_nodup key with none | ⟨message, -, one⟩
    · simp [none]
    · simp [one]
  unfold getSeqByKey at found ⊢
  cases listed : getSeqsByKey before key with
  | nil =>
    rw [listed] at found
    cases found
  | cons first rest =>
    have same : getSeqsByKey before key = getSeqsByKey after key := by
      apply grown.eq_of_length_le
      rw [listed, List.length_cons]
      omega
    rwa [← same]

/-- The message of an about is stored before it, and no other message gets its key. -/
theorem aboutsView_grows {facts' : Facts} (represents' : Represents after facts') (belong : facts.AboutsBelong)
    (belong' : facts'.AboutsBelong) : before.aboutsView <+: after.aboutsView := by
  apply flatMap_prefix grows.aboutsRaw
  intro ⟨id, about⟩ member
  obtain ⟨fact, listed, means⟩ := exists_fact_of_forall₂ represents.abouts member
  obtain ⟨fact', listed', means'⟩ := exists_fact_of_forall₂ represents'.abouts (grows.aboutsRaw.subset member)
  obtain ⟨message, single⟩ := messages_of_about represents belong listed means.fromKey
  obtain ⟨message', single'⟩ := messages_of_about represents' belong' listed' means'.fromKey
  have messages : (before.messagesView.filter fun row => row.keyId = about.linkFromKeyId) =
      after.messagesView.filter fun row => row.keyId = about.linkFromKeyId := by
    apply ((messagesView_grows represents grows).filter _).eq_of_length
    rw [single, single']
    rfl
  have key : before.keys.join about.linkFromKeyId = after.keys.join about.linkFromKeyId :=
    means.fromKey.join_eq grows.keys
  have toKey : before.keys.leftJoin about.linkToKeyId = after.keys.leftJoin about.linkToKeyId :=
    Dictionary.Maps.leftJoin_eq grows.keys means.toKey
  have toAuthor : before.authors.leftJoin about.linkToAuthorId = after.authors.leftJoin about.linkToAuthorId :=
    Dictionary.Maps.leftJoin_eq grows.authors means.toAuthor
  simp only [key, messages, toKey, toAuthor]

end

section
variable {SecretKey : Type} (crates : Crates SecretKey) (secretKeys : List SecretKey) (pubKey : String)

theorem views_grow (before after : List Call) : ViewsGrow (connectionAfter crates secretKeys pubKey before).db
    (connectionAfter crates secretKeys pubKey (before ++ after)).db := by
  have grows := history_grows crates secretKeys pubKey before after
  obtain ⟨represents, belong⟩ := history_belong crates secretKeys pubKey before
  obtain ⟨represents', belong'⟩ := history_belong crates secretKeys pubKey (before ++ after)
  exact
    { messages := messagesView_grows represents grows
      links := linksView_grows represents grows
      blobLinks := blobLinksView_grows represents grows
      abouts := aboutsView_grows represents grows represents' belong belong'
      branches := resolvedBranches_grow represents grows
      contacts := resolvedContacts_grow represents grows
      mentions := mentionsView_grows represents grows
      byKey := fun _ _ => getSeqByKey_stays represents grows represents'
      byType := getSeqsByType_grow grows
      byAuthor := getSeqsByAuthor_grow represents grows }

end

/-! ### Entries -/

section
variable {SecretKey : Type} (crates : Crates SecretKey) (secretKeys : List SecretKey)

/-- The offset of the entry or the key of its message is that of a message of the history. -/
def Taken (history : List Stored) (entry : Sequence × Bytes) : Prop :=
  ∃ earlier ∈ history, earlier.seq = entry.1 ∨
    (Stored.read crates secretKeys entry).map Stored.key = some earlier.key

variable {crates secretKeys}

theorem Taken.not_admits {history : List Stored} {entry : Sequence × Bytes}
    (taken : Taken crates secretKeys history entry) {facts : Facts}
    (messages : ∀ stored ∈ history, stored.messageFact crates ∈ facts.messages) {stored : Stored}
    (read : Stored.read crates secretKeys entry = some stored) : ¬ facts.Admits stored := by
  obtain ⟨earlier, member, same⟩ := taken
  have present := messages earlier member
  rintro ⟨freshSeq, freshKey⟩
  rcases same with sameSeq | sameKey
  · rw [Stored.read_seq crates secretKeys read, ← sameSeq] at freshSeq
    exact freshSeq (List.mem_map_of_mem present)
  · rw [read, Option.map_some, Option.some.injEq] at sameKey
    rw [sameKey] at freshKey
    exact freshKey (List.mem_map_of_mem present)

theorem Taken.refused {history : List Stored} {entry : Sequence × Bytes} (taken : Taken crates secretKeys history entry)
    {facts : Facts} (messages : ∀ stored ∈ history, stored.messageFact crates ∈ facts.messages)
    {items : List (Sequence × Bytes)} (member : entry ∈ items) :
    (recording crates secretKeys).acceptAll items facts = none := by
  obtain ⟨early, late, rfl⟩ := List.append_of_mem member
  rw [List.append_cons]
  apply Machine.acceptAll_append_none
  rw [Machine.acceptAll_concat, Option.bind_eq_none_iff]
  intro middle accepted
  have kept : ∀ stored ∈ history, stored.messageFact crates ∈ middle.messages := by
    apply Machine.acceptAll_invariant _ accepted messages
    intro before after item holds accepts
    obtain ⟨other, -, -, rfl⟩ := recording_accept_eq_some.mp accepts
    exact fun stored present => List.mem_append_left _ (holds stored present)
  rw [Option.eq_none_iff_forall_ne_some]
  intro facts' accepts
  obtain ⟨stored, read, ⟨-, admits⟩, -⟩ := recording_accept_eq_some.mp accepts
  exact taken.not_admits kept read admits

end

section
variable {SecretKey : Type} (crates : Crates SecretKey) (secretKeys : List SecretKey) (pubKey : String)
  (calls : List Call)

theorem messagesRaw_eq {before after : Db} {facts facts' : Facts} (grows : before.Grows after)
    (represents : Represents before facts) (represents' : Represents after facts')
    (same : facts'.messages = facts.messages) : after.messagesRaw = before.messagesRaw := by
  have lengths : before.messagesRaw.rows.length = after.messagesRaw.rows.length := by
    rw [represents'.messages.length_eq, Facts.bySeq_congr same, ← represents.messages.length_eq]
  exact (Table.ext (grows.messagesRaw.eq_of_length lengths)).symm

structure AppendedOnce : Prop where
  seqs : ((appended crates secretKeys pubKey calls).map Prod.fst).Nodup
  keys : ((appendedMessages crates secretKeys pubKey calls).map Stored.key).Nodup
  alone : ∀ (more : List Call) (entry : Sequence × Bytes),
    Taken crates secretKeys (appendedMessages crates secretKeys pubKey calls) entry →
      Action.Ends (append crates secretKeys entry.1 entry.2) (connectionAfter crates secretKeys pubKey (calls ++ more))
        (fun _ _ => False)
        fun after => after.db.messagesRaw = (connectionAfter crates secretKeys pubKey (calls ++ more)).db.messagesRaw
  batched : ∀ (more : List Call) (entry : Sequence × Bytes) (items : List (Sequence × Bytes)),
    Taken crates secretKeys (appendedMessages crates secretKeys pubKey calls) entry → entry ∈ items →
      Action.Ends (appendBatch crates secretKeys items) (connectionAfter crates secretKeys pubKey (calls ++ more))
        (fun _ _ => False) fun after => after.db = (connectionAfter crates secretKeys pubKey (calls ++ more)).db

theorem appended_once : AppendedOnce crates secretKeys pubKey calls := by
  obtain ⟨reads, facts, represents, messages⟩ := history_represents crates secretKeys pubKey calls
  refine ⟨?_, ?_, fun more entry taken => ?_, fun more entry items taken member => ?_⟩
  · -- `messages_raw` has each offset once.
    have rowids := (connectionAfter crates secretKeys pubKey calls).db.messagesRaw.rowids
    have offsets : (((appendedMessages crates secretKeys pubKey calls).map Stored.seq).map asI64).Nodup := by
      rw [List.map_map]
      exact (history_rowids represents messages).nodup_iff.mp rowids
    rw [← Stored.reads_seqs crates secretKeys reads]
    exact offsets.of_map _
  · have keys := represents.messageKeys_nodup
    rw [messages, List.map_map] at keys
    exact keys
  all_goals
    obtain ⟨-, facts', represents', messages'⟩ := history_represents crates secretKeys pubKey (calls ++ more)
    have kept : ∀ stored ∈ appendedMessages crates secretKeys pubKey calls,
        stored.messageFact crates ∈ facts'.messages := by
      intro stored present
      rw [messages']
      exact List.mem_map_of_mem ((appendedMessages_append crates secretKeys pubKey calls more).subset present)
  · generalize connectionAfter crates secretKeys pubKey (calls ++ more) = connection at represents'
    rcases Action.run_cases (append crates secretKeys entry.1 entry.2) connection with
      ⟨_, after, ended⟩ | ⟨why, after, ended⟩
    · obtain ⟨facts'', accepts, -⟩ := (appendItem_simulates crates secretKeys entry _ facts' represents').ok ended
      obtain ⟨stored, read, ⟨-, admits⟩, -⟩ := recording_accept_eq_some.mp accepts
      exact absurd admits (taken.not_admits kept read)
    · have grows := (append_adds crates secretKeys entry.1 entry.2).grows connection
      obtain ⟨facts'', represents'', same⟩ :=
        ((Call.append entry.1 entry.2).ends crates secretKeys represents').error ended
      rw [ended] at grows
      exact .of_error ended (messagesRaw_eq grows represents' represents'' same)
  · apply (appendBatch_follows crates secretKeys represents' items).mono
    · rintro _ after ⟨facts'', accepts, -⟩
      rw [taken.refused kept member] at accepts
      cases accepts
    · exact fun after stopped => stopped.2

end

end FlumeViewSql

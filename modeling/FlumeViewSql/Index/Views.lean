import FlumeViewSql.Index.Represents
import FlumeViewSql.Source.SqlViews

/-! The views of a database that represents facts show exactly these facts.

Every number in a table was given out, so no inner join drops a row, and it was given
to one string, so no join doubles one.
-/

set_option autoImplicit false

namespace FlumeViewSql

open Relational

def MessagesViewRow.fact (row : MessagesViewRow) : MessageFact where
  flumeSeq := row.flumeSeq
  key := row.key
  seq := row.seq
  receivedTime := row.receivedTime
  assertedTime := row.assertedTime
  root := row.root
  fork := row.fork
  author := row.author
  contentType := row.contentType
  content := row.content
  isDecrypted := row.isDecrypted

/-- A row of the messages view shows the key of its number. -/
theorem messagesView_maps (db : Db) : ∀ row ∈ db.messagesView, Dictionary.Maps db.keys row.keyId row.key := by
  intro row member
  simp only [Db.messagesView, List.mem_flatMap, List.mem_map] at member
  obtain ⟨⟨flumeSeq, message⟩, -, key, joined, root, -, fork, -, author, -, rfl⟩ := member
  exact ⟨key, Table.mem_join.mp joined, rfl⟩

section
variable {db : Db} {facts : Facts} (represents : Represents db facts)
include represents

theorem messagesView_facts : db.messagesView.map MessagesViewRow.fact = facts.bySeq := by
  apply shows_of_forall₂ represents.messages
  intro row fact means
  obtain ⟨key, keyRow, keySame⟩ := means.key.join
  obtain ⟨root, rootRow, rootSame⟩ := Dictionary.Maps.leftJoin means.root
  obtain ⟨fork, forkRow, forkSame⟩ := Dictionary.Maps.leftJoin means.fork
  obtain ⟨author, authorRow, authorSame⟩ := means.author.join
  simp only [Db.names] at keyRow rootRow forkRow authorRow
  simp only [keyRow, rootRow, forkRow, authorRow, List.flatMap_singleton, List.map_singleton, MessagesViewRow.fact,
    keySame, rootSame, forkSame, authorSame, means.flumeSeq, means.seq, means.receivedTime, means.assertedTime,
    means.contentType, means.content, means.isDecrypted]

theorem messagesView_perm : (db.messagesView.map MessagesViewRow.fact).Perm facts.messages := by
  rw [messagesView_facts represents]
  exact facts.bySeq_perm

theorem linksView_facts : db.linksView.map (fun row => (row.linkFromKey, row.linkToKey)) = facts.links := by
  apply shows_of_forall₂ represents.links
  intro row fact means
  obtain ⟨fromKey, fromRow, fromSame⟩ := means.1.join
  obtain ⟨toKey, toRow, toSame⟩ := means.2.join
  simp only [Db.names] at fromRow toRow
  simp only [fromRow, toRow, List.flatMap_singleton, List.map_singleton, fromSame, toSame]

theorem blobLinksView_facts :
    db.blobLinksView.map (fun row => (row.linkFromKey, row.linkToBlob)) = facts.blobLinks := by
  apply shows_of_forall₂ represents.blobLinks
  intro row fact means
  obtain ⟨fromKey, fromRow, fromSame⟩ := means.1.join
  obtain ⟨toBlob, toRow, toSame⟩ := means.2.join
  simp only [Db.names] at fromRow toRow
  simp only [fromRow, toRow, List.flatMap_singleton, List.map_singleton, fromSame, toSame]

theorem resolvedBranches_facts : db.resolvedBranches = facts.branches := by
  have shown : db.resolvedBranches.map id = facts.branches := by
    apply shows_of_forall₂ represents.branches
    intro row fact means
    obtain ⟨fromKey, fromRow, fromSame⟩ := means.1.join
    obtain ⟨toKey, toRow, toSame⟩ := means.2.join
    simp only [Db.names] at fromRow toRow
    simp only [fromRow, toRow, List.flatMap_singleton, List.map_singleton, fromSame, toSame, id]
  rwa [List.map_id] at shown

theorem resolvedContacts_facts : db.resolvedContacts = facts.contacts := by
  have shown : db.resolvedContacts.map id = facts.contacts := by
    apply shows_of_forall₂ represents.contacts
    intro row fact means
    obtain ⟨author, authorRow, authorSame⟩ := means.author.join
    obtain ⟨contact, contactRow, contactSame⟩ := means.contact.join
    simp only [Db.names] at authorRow contactRow
    simp only [authorRow, contactRow, List.flatMap_singleton, List.map_singleton, authorSame, contactSame,
      means.isDecrypted, means.state, id]
  rwa [List.map_id] at shown

/-- The rows of `messages_raw` joined on the number of a key show the messages of that key. -/
theorem flumeSeqs_of_keyId {keyId : Int} {key : String} (maps : Dictionary.Maps db.keys keyId key) :
    ((db.messagesRaw.rows.filter fun row => row.2.keyId = keyId).map Prod.fst) =
      (facts.messages.filter fun message => message.key = key).map MessageFact.flumeSeq := by
  rw [← represents.bySeq_filter_key]
  apply represents.flumeSeqs_filter
  intro row fact means
  constructor
  · rintro rfl
    exact means.key.functional maps
  · rintro rfl
    exact means.key.injective maps

theorem messagesView_of_keyId {keyId : Int} {key : String} (maps : Dictionary.Maps db.keys keyId key) :
    (db.messagesView.filter fun row => row.keyId = keyId).map MessagesViewRow.fact =
      facts.messages.filter fun message => message.key = key := by
  have same : (db.messagesView.filter fun row => row.keyId = keyId) =
      db.messagesView.filter fun row => row.fact.key = key := by
    apply List.filter_congr
    intro row member
    have shown : Dictionary.Maps db.keys row.keyId row.fact.key := messagesView_maps db row member
    rw [decide_eq_decide]
    constructor
    · rintro rfl
      exact shown.functional maps
    · rintro rfl
      exact shown.injective maps
  rw [same, ← represents.bySeq_filter_key, ← messagesView_facts represents, List.filter_map]
  rfl

/-- Each about is shown with the content of the message that it belongs to. -/
theorem aboutsView_facts :
    db.aboutsView.map (fun row => (row.linkFromKey, row.content, row.linkToAuthor, row.linkToKey)) =
      facts.abouts.flatMap fun about =>
        (facts.messages.filter fun message => message.key = about.fromKey).map fun message =>
          (about.fromKey, message.content, about.toAuthor, about.toKey) := by
  apply map_flatMap_of_forall₂ represents.abouts
  intro row fact means
  obtain ⟨key, keyRow, keySame⟩ := means.fromKey.join
  obtain ⟨toKey, toKeyRow, toKeySame⟩ := Dictionary.Maps.leftJoin means.toKey
  obtain ⟨toAuthor, toAuthorRow, toAuthorSame⟩ := Dictionary.Maps.leftJoin means.toAuthor
  simp only [Db.names] at keyRow toKeyRow toAuthorRow
  rw [← messagesView_of_keyId represents means.fromKey]
  simp only [keyRow, toKeyRow, toAuthorRow, List.flatMap_singleton, List.map_flatMap, List.map_singleton, keySame,
    toKeySame, toAuthorSame, List.map_map]
  rw [List.map_eq_flatMap]
  rfl

/-- What the mentions view shows where `link_to_author_id` happens to be an author's number. -/
theorem mentionsView_facts
    (resolved : List.Forall₂ (fun row fact => Dictionary.Maps db.authors row.2.linkToAuthorId fact.2)
      db.mentionsRaw.rows facts.mentions) :
    db.mentionsView.map (fun row => (row.linkFrom, row.linkTo, row.flumeSeq)) =
      facts.mentions.flatMap fun fact =>
        (facts.messages.filter fun message => message.key = fact.1).map fun message =>
          (fact.1, fact.2, message.flumeSeq) := by
  have both := resolved.mp (fun _ _ author means => And.intro author means) represents.mentions
  apply map_flatMap_of_forall₂ both
  intro row fact ⟨toAuthor, fromKey, _⟩
  obtain ⟨key, keyRow, keySame⟩ := fromKey.join
  obtain ⟨author, authorRow, authorSame⟩ := toAuthor.join
  simp only [Db.names] at keyRow
  simp only [keyRow, authorRow, List.flatMap_singleton, List.map_map, keySame, authorSame, Function.comp_def]
  have flumeSeqs := congrArg (List.map fun flumeSeq => (fact.1, fact.2, flumeSeq))
    (flumeSeqs_of_keyId represents fromKey)
  simpa only [List.map_map, Function.comp_def] using flumeSeqs

end

end FlumeViewSql

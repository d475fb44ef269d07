import FlumeViewSql.Contract.Lookups
import FlumeViewSql.Index.Machine
import FlumeViewSql.Index.Views

/-! What can be read from the view, over any history, is what the abstract machine says.

Calls that stop are part of the histories here. The machine knows no ids, yet what is read
through ids, the mentions view with its mistaken join included, is a function of its state.
-/

set_option autoImplicit false

namespace FlumeViewSql

open Execution Relational

/-- Everything that the views, the lookups and the three dictionaries show, and the two tables
that have no view, with their ids resolved. -/
structure Shown where
  messages : List MessageFact
  links : List (String × String)
  mentions : List (String × String × Int)
  blobLinks : List (String × String)
  branches : List (String × String)
  contacts : List (String × String × Bool × Int)
  abouts : List (String × Cell × Option String × Option String)
  keys : List (Int × String)
  authors : List (Int × String)
  blobs : List (Int × String)
  latest : Sequence
  seqByKey : String → Except SqlError Int
  seqsByType : String → List Int
  seqsByAuthor : String → List Int

def Db.shown (db : Db) : Shown where
  messages := db.messagesView.map MessagesViewRow.fact
  links := db.linksView.map fun row => (row.linkFromKey, row.linkToKey)
  mentions := db.mentionsView.map fun row => (row.linkFrom, row.linkTo, row.flumeSeq)
  blobLinks := db.blobLinksView.map fun row => (row.linkFromKey, row.linkToBlob)
  branches := db.resolvedBranches
  contacts := db.resolvedContacts
  abouts := db.aboutsView.map fun row => (row.linkFromKey, row.content, row.linkToAuthor, row.linkToKey)
  keys := db.keys.rows.map fun row => (row.1, row.2.key)
  authors := db.authors.rows.map fun row => (row.1, row.2.author)
  blobs := db.blobs.rows.map fun row => (row.1, row.2.blob)
  latest := getLatest db
  seqByKey := getSeqByKey db
  seqsByType := getSeqsByType db
  seqsByAuthor := getSeqsByAuthor db

namespace Facts

variable (facts : Facts)

/-- The author whose number a mentioned string has as a key. -/
def authorNumbered (mention : String) : Option String :=
  facts.authorUses.eraseDups[facts.keyUses.eraseDups.idxOf mention]?

def messagesOf (key : String) : List MessageFact := facts.messages.filter fun message => message.key = key

def seqsWhere (condition : MessageFact → Bool) : List Int :=
  (facts.bySeq.filter condition).map MessageFact.flumeSeq

def seqByKey (key : String) : Except SqlError Int :=
  match facts.seqsWhere fun message => message.key = key with
  | flumeSeq :: _ => .ok flumeSeq
  | [] => .error .queryReturnedNoRows

def shown : Shown where
  messages := facts.bySeq
  links := facts.links
  -- A mention of a string that no author has the number of is not shown.
  mentions := facts.mentions.flatMap fun mention =>
    (facts.authorNumbered mention.2).toList.flatMap fun author =>
      (facts.messagesOf mention.1).map fun message => (mention.1, author, message.flumeSeq)
  blobLinks := facts.blobLinks
  branches := facts.branches
  contacts := facts.contacts
  abouts := facts.abouts.flatMap fun about =>
    (facts.messagesOf about.fromKey).map fun message =>
      (about.fromKey, message.content, about.toAuthor, about.toKey)
  keys := numbered facts.keyUses.eraseDups
  authors := numbered facts.authorUses.eraseDups
  blobs := numbered facts.blobUses.eraseDups
  latest := asSequence ((facts.messages.map MessageFact.flumeSeq).max?.getD 0)
  seqByKey := facts.seqByKey
  seqsByType contentType := facts.seqsWhere fun message => message.contentType = some contentType
  seqsByAuthor author := facts.seqsWhere fun message => message.author = author

end Facts

section
variable {db : Db} {facts : Facts} (represents : Represents db facts)
include represents

/-- The join on `link_to_author_id` finds the author who happens to have the number of the key. -/
theorem join_mention {number : Int} {mention : String} (maps : Dictionary.Maps db.keys number mention) :
    (db.authors.join number).map AuthorRow.author = (facts.authorNumbered mention).toList := by
  have used : mention ∈ facts.keyUses.eraseDups := List.mem_eraseDups.mpr (represents.keys.mem_iff.mp ⟨number, maps⟩)
  have place := List.getElem?_idxOf used
  have same := maps.injective (represents.keys.maps_iff.mpr ⟨_, place, rfl⟩)
  rw [same, represents.authors.join, Facts.authorNumbered]

theorem shown_mentions : db.shown.mentions = facts.shown.mentions := by
  apply map_flatMap_of_forall₂ represents.mentions
  intro row fact ⟨fromKey, toKey⟩
  obtain ⟨key, keyRow, keySame⟩ := fromKey.join
  have authors := join_mention represents toKey
  have flumeSeqs := flumeSeqs_of_keyId represents fromKey
  simp only [Db.names] at keyRow
  simp only [keyRow, List.flatMap_singleton, List.map_flatMap, List.map_map, keySame, ← authors, List.flatMap_map]
  apply List.flatMap_congr
  intro author _
  have shown := congrArg (List.map fun flumeSeq => (fact.1, author.author, flumeSeq)) flumeSeqs
  rw [List.map_map, List.map_map] at shown
  exact shown

theorem shown_seqByKey : db.shown.seqByKey = facts.shown.seqByKey := by
  funext key
  have seqs : getSeqsByKey db key = facts.seqsWhere fun message => message.key = key :=
    getSeqsByKey_facts represents key
  have first : ∀ found : List Int, getSeqsByKey db key = found → getSeqByKey db key =
      match found with
      | flumeSeq :: _ => .ok flumeSeq
      | [] => .error .queryReturnedNoRows := by
    rintro _ rfl
    rfl
  exact first _ seqs

theorem shown_latest : db.shown.latest = facts.shown.latest := by
  unfold Db.shown Facts.shown getLatest Table.lastRowid
  rw [max?_perm represents.flumeSeqs_perm]

theorem Represents.shown : db.shown = facts.shown := by
  have mentions := shown_mentions represents
  have seqByKey := shown_seqByKey represents
  have latest := shown_latest represents
  have byType : getSeqsByType db = facts.shown.seqsByType := funext (getSeqsByType_facts represents)
  have byAuthor : getSeqsByAuthor db = facts.shown.seqsByAuthor := funext (getSeqsByAuthor_facts represents)
  have abouts : db.shown.abouts = facts.shown.abouts := aboutsView_facts represents
  simp only [Db.shown, Facts.shown] at mentions seqByKey latest byType byAuthor abouts
  simp only [Db.shown, Facts.shown, messagesView_facts represents, linksView_facts represents, mentions,
    blobLinksView_facts represents, resolvedBranches_facts represents, resolvedContacts_facts represents, abouts,
    latest, seqByKey, byType, byAuthor, Shown.mk.injEq, true_and, and_true]
  exact ⟨represents.keys, represents.authors, represents.blobs⟩

end

section
variable {SecretKey : Type} (crates : Crates SecretKey) (secretKeys : List SecretKey) (pubKey : String)
  (calls : List Call)

/-- Whatever calls are made and however they end, those return that the machine accepts, and
everything that can be read is what the machine's state shows. -/
theorem history_refines :
    Action.returned (Call.perform crates secretKeys) calls (created pubKey) =
        (indexing crates secretKeys).accepted calls (.created pubKey) ∧
      (connectionAfter crates secretKeys pubKey calls).db.shown =
        ((indexing crates secretKeys).run calls (.created pubKey)).shown := by
  obtain ⟨represents, returned⟩ := history_follows crates secretKeys pubKey calls
  exact ⟨returned, represents.shown⟩

end

end FlumeViewSql

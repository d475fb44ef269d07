import FlumeViewSql.Index.Facts
import Mathlib.Data.List.Forall2

/-! When a database holds given facts.

Row by row, every number in a table is the number of the string that the fact names. Edges
stand in the order of insertion, messages in that of their seqs. A database that represents
facts therefore has no dangling number.
Each lemma below adds one row to one table, or one use to one dictionary.
-/

set_option autoImplicit false

namespace FlumeViewSql

open Relational

/-- The three dictionaries of a database. -/
structure Names where
  keys : Dictionary KeyRow String KeyRow.key
  authors : Dictionary AuthorRow String AuthorRow.author
  blobs : Dictionary BlobRow String BlobRow.blob

def Db.names (db : Db) : Names := ⟨db.keys, db.authors, db.blobs⟩

structure Names.Extends (before after : Names) : Prop where
  keys : before.keys.Extends after.keys
  authors : before.authors.Extends after.authors
  blobs : before.blobs.Extends after.blobs

theorem Names.Extends.refl (names : Names) : names.Extends names := ⟨.refl _, .refl _, .refl _⟩

theorem Names.Extends.trans {first second third : Names} (early : first.Extends second)
    (late : second.Extends third) : first.Extends third :=
  ⟨early.keys.trans late.keys, early.authors.trans late.authors, early.blobs.trans late.blobs⟩

structure MessageRow.Means (names : Names) (entry : Int × MessageRow) (fact : MessageFact) : Prop where
  flumeSeq : entry.1 = fact.flumeSeq
  key : Dictionary.Maps names.keys entry.2.keyId fact.key
  root : Option.Rel (Dictionary.Maps names.keys) entry.2.rootId fact.root
  fork : Option.Rel (Dictionary.Maps names.keys) entry.2.forkId fact.fork
  author : Dictionary.Maps names.authors entry.2.authorId fact.author
  seq : entry.2.seq = fact.seq
  receivedTime : entry.2.receivedTime = fact.receivedTime
  assertedTime : entry.2.assertedTime = fact.assertedTime
  contentType : entry.2.contentType = fact.contentType
  content : entry.2.content = fact.content
  isDecrypted : entry.2.isDecrypted = fact.isDecrypted

def LinkRow.Means (names : Names) (entry : Int × LinkRow) (fact : String × String) : Prop :=
  Dictionary.Maps names.keys entry.2.linkFromKeyId fact.1 ∧ Dictionary.Maps names.keys entry.2.linkToKeyId fact.2

/-- As written: the target of a mention is the number of a key. -/
def MentionRow.Means (names : Names) (entry : Int × MentionRow) (fact : String × String) : Prop :=
  Dictionary.Maps names.keys entry.2.linkFromKeyId fact.1 ∧ Dictionary.Maps names.keys entry.2.linkToAuthorId fact.2

def BlobLinkRow.Means (names : Names) (entry : Int × BlobLinkRow) (fact : String × String) : Prop :=
  Dictionary.Maps names.keys entry.2.linkFromKeyId fact.1 ∧ Dictionary.Maps names.blobs entry.2.linkToBlobId fact.2

def BranchRow.Means (names : Names) (entry : Int × BranchRow) (fact : String × String) : Prop :=
  Dictionary.Maps names.keys entry.2.linkFromKeyId fact.1 ∧ Dictionary.Maps names.keys entry.2.linkToKeyId fact.2

structure ContactRow.Means (names : Names) (entry : Int × ContactRow) (fact : String × String × Bool × Int) : Prop where
  author : Dictionary.Maps names.authors entry.2.authorId fact.1
  contact : Dictionary.Maps names.authors entry.2.contactAuthorId fact.2.1
  isDecrypted : entry.2.isDecrypted = fact.2.2.1
  state : entry.2.state = fact.2.2.2

structure AboutRow.Means (names : Names) (entry : Int × AboutRow) (fact : AboutFact) : Prop where
  fromKey : Dictionary.Maps names.keys entry.2.linkFromKeyId fact.fromKey
  toAuthor : Option.Rel (Dictionary.Maps names.authors) entry.2.linkToAuthorId fact.toAuthor
  toKey : Option.Rel (Dictionary.Maps names.keys) entry.2.linkToKeyId fact.toKey

structure Represents (db : Db) (facts : Facts) : Prop where
  keys : Dictionary.Numbers db.keys facts.keyUses
  authors : Dictionary.Numbers db.authors facts.authorUses
  blobs : Dictionary.Numbers db.blobs facts.blobUses
  messages : List.Forall₂ (MessageRow.Means db.names) db.messagesRaw.rows facts.bySeq
  links : List.Forall₂ (LinkRow.Means db.names) db.linksRaw.rows facts.links
  mentions : List.Forall₂ (MentionRow.Means db.names) db.mentionsRaw.rows facts.mentions
  blobLinks : List.Forall₂ (BlobLinkRow.Means db.names) db.blobLinksRaw.rows facts.blobLinks
  branches : List.Forall₂ (BranchRow.Means db.names) db.branchesRaw.rows facts.branches
  contacts : List.Forall₂ (ContactRow.Means db.names) db.contactsRaw.rows facts.contacts
  abouts : List.Forall₂ (AboutRow.Means db.names) db.aboutsRaw.rows facts.abouts

theorem represents_created (pubKey : String) : Represents (.created pubKey) (.created pubKey) where
  keys := rfl
  authors := rfl
  blobs := rfl
  messages := .nil
  links := .nil
  mentions := .nil
  blobLinks := .nil
  branches := .nil
  contacts := .nil
  abouts := .nil

/-! ### Dictionaries may grow -/

theorem rel_mono {ρ : Type} {text : ρ → String} {before after : Dictionary ρ String text}
    (grows : before.Extends after) {rowid : Option Int} {key : Option String}
    (related : Option.Rel before.Maps rowid key) : Option.Rel after.Maps rowid key := by
  cases related with
  | none => exact .none
  | some maps => exact .some (maps.mono grows)

/-- The facts of a database stand when its dictionaries grow and its other tables stay. -/
theorem Represents.mono {db : Db} {facts : Facts} (represents : Represents db facts) (names : Names)
    (grows : db.names.Extends names) {keyUses authorUses blobUses : List String}
    (keyNumbers : Dictionary.Numbers names.keys keyUses)
    (authorNumbers : Dictionary.Numbers names.authors authorUses)
    (blobNumbers : Dictionary.Numbers names.blobs blobUses) :
    Represents { db with keys := names.keys, authors := names.authors, blobs := names.blobs }
      { facts with keyUses, authorUses, blobUses } where
  keys := keyNumbers
  authors := authorNumbers
  blobs := blobNumbers
  messages := represents.messages.imp fun _ _ means =>
    { means with
      key := means.key.mono grows.keys
      root := rel_mono grows.keys means.root
      fork := rel_mono grows.keys means.fork
      author := means.author.mono grows.authors }
  links := represents.links.imp fun _ _ means => ⟨means.1.mono grows.keys, means.2.mono grows.keys⟩
  mentions := represents.mentions.imp fun _ _ means => ⟨means.1.mono grows.keys, means.2.mono grows.keys⟩
  blobLinks := represents.blobLinks.imp fun _ _ means => ⟨means.1.mono grows.keys, means.2.mono grows.blobs⟩
  branches := represents.branches.imp fun _ _ means => ⟨means.1.mono grows.keys, means.2.mono grows.keys⟩
  contacts := represents.contacts.imp fun _ _ means =>
    { means with author := means.author.mono grows.authors, contact := means.contact.mono grows.authors }
  abouts := represents.abouts.imp fun _ _ means =>
    { fromKey := means.fromKey.mono grows.keys
      toAuthor := rel_mono grows.authors means.toAuthor
      toKey := rel_mono grows.keys means.toKey }

/-! ### Which messages are there -/

section
variable {db : Db} {facts : Facts} (represents : Represents db facts)
include represents

theorem Represents.flumeSeqs : db.messagesRaw.rows.map Prod.fst = facts.bySeq.map MessageFact.flumeSeq := by
  have related : List.Forall₂ (· = ·) (db.messagesRaw.rows.map Prod.fst) (facts.bySeq.map MessageFact.flumeSeq) := by
    rw [List.forall₂_map_left_iff, List.forall₂_map_right_iff]
    exact represents.messages.imp fun _ _ means => means.flumeSeq
  rwa [List.forall₂_eq_eq_eq] at related

theorem Represents.flumeSeqs_perm :
    (db.messagesRaw.rows.map Prod.fst).Perm (facts.messages.map MessageFact.flumeSeq) := by
  rw [represents.flumeSeqs]
  exact facts.bySeq_perm.map MessageFact.flumeSeq

theorem Represents.messageSeqs_nodup : (facts.messages.map MessageFact.flumeSeq).Nodup :=
  represents.flumeSeqs_perm.nodup_iff.mp db.messagesRaw.rowids

/-- A condition on the rows that says what one on the facts says selects the same messages. -/
theorem Represents.flumeSeqs_filter {onRow : Int × MessageRow → Prop} [DecidablePred onRow]
    {onFact : MessageFact → Prop} [DecidablePred onFact]
    (same : ∀ row fact, MessageRow.Means db.names row fact → (onRow row ↔ onFact fact)) :
    (db.messagesRaw.rows.filter onRow).map Prod.fst = (facts.bySeq.filter onFact).map MessageFact.flumeSeq := by
  have related : List.Forall₂ (MessageRow.Means db.names) (db.messagesRaw.rows.filter onRow)
      (facts.bySeq.filter onFact) :=
    List.rel_filter (fun row fact means => by simpa using same row fact means) represents.messages
  have seqs := List.forall₂_map_left_iff.mpr
    (List.forall₂_map_right_iff.mpr (related.imp fun _ _ means => means.flumeSeq))
  rwa [List.forall₂_eq_eq_eq] at seqs

theorem Represents.keyIds : List.Forall₂ (Dictionary.Maps db.keys)
    (db.messagesRaw.rows.map fun row => row.2.keyId) (facts.bySeq.map MessageFact.key) :=
  List.forall₂_map_left_iff.mpr (List.forall₂_map_right_iff.mpr (represents.messages.imp fun _ _ means => means.key))

/-- A key has a message exactly when its number stands in `key_id`. -/
theorem Represents.mem_keyIds {messageKeyId : Int} {key : String}
    (maps : Dictionary.Maps db.keys messageKeyId key) :
    messageKeyId ∈ db.messagesRaw.rows.map (fun row => row.2.keyId) ↔ key ∈ facts.messages.map MessageFact.key := by
  rw [← (facts.bySeq_perm.map MessageFact.key).mem_iff]
  exact List.rel_mem Dictionary.maps_biUnique maps represents.keyIds

theorem Represents.messageKeys_nodup : (facts.messages.map MessageFact.key).Nodup := by
  have distinct := db.messagesRaw.distinct
  rw [List.filterMap_eq_map'] at distinct
  rw [← (facts.bySeq_perm.map MessageFact.key).nodup_iff]
  exact (List.rel_nodup Dictionary.maps_biUnique represents.keyIds).mp distinct

/-- A key belongs to one message at most, so the order of the messages does not matter to it. -/
theorem Represents.bySeq_filter_key (key : String) :
    (facts.bySeq.filter fun message => message.key = key) = facts.messages.filter fun message => message.key = key :=
  (filter_eq_of_perm facts.bySeq_perm.symm represents.messageKeys_nodup key).symm

theorem Represents.admits_iff {stored : Stored} {row : MessageRow}
    (maps : Dictionary.Maps db.keys row.keyId stored.key) :
    db.messagesRaw.Admits (asI64 stored.seq) row ↔ facts.Admits stored := by
  rw [Facts.Admits, ← represents.flumeSeqs_perm.mem_iff, ← represents.mem_keyIds maps]
  simp [Table.Admits, List.filterMap_eq_map']

end

/-! ### One more use, one more row -/

section
variable {db : Db} {facts : Facts} (represents : Represents db facts) {rowid : Int}
include represents

theorem Represents.useKey {key : String} {after : Dictionary KeyRow String KeyRow.key}
    (interns : Dictionary.Interns keysTable.blank db.keys key rowid after) :
    Represents { db with keys := after } { facts with keyUses := facts.keyUses ++ [key] } :=
  represents.mono ⟨after, db.authors, db.blobs⟩ ⟨interns.extends, .refl _, .refl _⟩
    (interns.numbers keysTable.names represents.keys) represents.authors represents.blobs

theorem Represents.useAuthor {author : String} {after : Dictionary AuthorRow String AuthorRow.author}
    (interns : Dictionary.Interns authorsTable.blank db.authors author rowid after) :
    Represents { db with authors := after } { facts with authorUses := facts.authorUses ++ [author] } :=
  represents.mono ⟨db.keys, after, db.blobs⟩ ⟨.refl _, interns.extends, .refl _⟩
    represents.keys (interns.numbers authorsTable.names represents.authors) represents.blobs

theorem Represents.useBlob {blob : String} {after : Dictionary BlobRow String BlobRow.blob}
    (interns : Dictionary.Interns blobsTable.blank db.blobs blob rowid after) :
    Represents { db with blobs := after } { facts with blobUses := facts.blobUses ++ [blob] } :=
  represents.mono ⟨db.keys, db.authors, after⟩ ⟨.refl _, .refl _, interns.extends⟩
    represents.keys represents.authors (interns.numbers blobsTable.names represents.blobs)

theorem Represents.addMessage {row : MessageRow} {fact : MessageFact}
    {after : Table MessageRow Int fun row => some row.keyId} (means : MessageRow.Means db.names (rowid, row) fact)
    (fresh : fact.flumeSeq ∉ facts.messages.map MessageFact.flumeSeq)
    (rows : after.rows = db.messagesRaw.rows.orderedInsert (OrderedBy Prod.fst) (rowid, row)) :
    Represents { db with messagesRaw := after } { facts with messages := facts.messages ++ [fact] } := by
  refine { represents with messages := ?_ }
  have placed : ({ facts with messages := facts.messages ++ [fact] } : Facts).bySeq =
      facts.bySeq.orderedInsert (OrderedBy MessageFact.flumeSeq) fact := by
    have distinct : ((fact :: facts.messages).map MessageFact.flumeSeq).Nodup :=
      List.nodup_cons.mpr ⟨fresh, represents.messageSeqs_nodup⟩
    have last : (fact :: facts.messages).Perm (facts.messages ++ [fact]) := (List.perm_append_singleton _ _).symm
    exact (insertionSort_eq_of_perm last distinct).symm
  rw [placed, rows]
  apply forall₂_orderedInsert represents.messages means
  intro other fact' means'
  rw [OrderedBy, OrderedBy, means.flumeSeq, means'.flumeSeq]

theorem Represents.addLink {row : LinkRow} {fact : String × String} {after : PlainTable LinkRow}
    (means : LinkRow.Means db.names (rowid, row) fact) (rows : after.rows = db.linksRaw.rows ++ [(rowid, row)]) :
    Represents { db with linksRaw := after } { facts with links := facts.links ++ [fact] } :=
  { represents with links := rows ▸ List.rel_append represents.links (.cons means .nil) }

theorem Represents.addMention {row : MentionRow} {fact : String × String} {after : PlainTable MentionRow}
    (means : MentionRow.Means db.names (rowid, row) fact) (rows : after.rows = db.mentionsRaw.rows ++ [(rowid, row)]) :
    Represents { db with mentionsRaw := after } { facts with mentions := facts.mentions ++ [fact] } :=
  { represents with mentions := rows ▸ List.rel_append represents.mentions (.cons means .nil) }

theorem Represents.addBlobLink {row : BlobLinkRow} {fact : String × String} {after : PlainTable BlobLinkRow}
    (means : BlobLinkRow.Means db.names (rowid, row) fact)
    (rows : after.rows = db.blobLinksRaw.rows ++ [(rowid, row)]) :
    Represents { db with blobLinksRaw := after } { facts with blobLinks := facts.blobLinks ++ [fact] } :=
  { represents with blobLinks := rows ▸ List.rel_append represents.blobLinks (.cons means .nil) }

theorem Represents.addBranch {row : BranchRow} {fact : String × String} {after : PlainTable BranchRow}
    (means : BranchRow.Means db.names (rowid, row) fact) (rows : after.rows = db.branchesRaw.rows ++ [(rowid, row)]) :
    Represents { db with branchesRaw := after } { facts with branches := facts.branches ++ [fact] } :=
  { represents with branches := rows ▸ List.rel_append represents.branches (.cons means .nil) }

theorem Represents.addContact {row : ContactRow} {fact : String × String × Bool × Int}
    {after : PlainTable ContactRow} (means : ContactRow.Means db.names (rowid, row) fact)
    (rows : after.rows = db.contactsRaw.rows ++ [(rowid, row)]) :
    Represents { db with contactsRaw := after } { facts with contacts := facts.contacts ++ [fact] } :=
  { represents with
    contacts := rows ▸ List.rel_append represents.contacts (.cons means .nil) }

theorem Represents.addAbout {row : AboutRow} {fact : AboutFact} {after : PlainTable AboutRow}
    (means : AboutRow.Means db.names (rowid, row) fact) (rows : after.rows = db.aboutsRaw.rows ++ [(rowid, row)]) :
    Represents { db with aboutsRaw := after } { facts with abouts := facts.abouts ++ [fact] } :=
  { represents with
    abouts := rows ▸ List.rel_append represents.abouts (.cons means .nil) }

end

end FlumeViewSql

import FlumeViewSql.Index.History
import FlumeViewSql.Relational.Numbering

/-! What the facts do not say about a database, and why that is little.

The facts leave open the ids of the edges and which author is me. Both are the same in every
database that histories reach, so two of these that hold the same facts are equal.
-/

set_option autoImplicit false

namespace FlumeViewSql

open Execution Relational

/-- The ids of the edges count from 1, and the first author alone is me. -/
structure Db.Regular (pubKey : String) (db : Db) : Prop where
  linksRaw : db.linksRaw.Dense
  mentionsRaw : db.mentionsRaw.Dense
  blobLinksRaw : db.blobLinksRaw.Dense
  branchesRaw : db.branchesRaw.Dense
  contactsRaw : db.contactsRaw.Dense
  aboutsRaw : db.aboutsRaw.Dense
  me : (1, ⟨pubKey, some true⟩) ∈ db.authors.rows
  others : ∀ row ∈ db.authors.rows, row.1 ≠ 1 → row.2.isMe = none

theorem regular_created (pubKey : String) : (Db.created pubKey).Regular pubKey where
  linksRaw := Table.dense_empty
  mentionsRaw := Table.dense_empty
  blobLinksRaw := Table.dense_empty
  branchesRaw := Table.dense_empty
  contactsRaw := Table.dense_empty
  aboutsRaw := Table.dense_empty
  me := List.mem_singleton_self _
  others := by simp [Db.created]

section
variable (pubKey : String)

/-- An author who is interned gets a number behind that of the author that is me. -/
theorem Db.Regular.internAuthor {db : Db} (regular : db.Regular pubKey) {author : String} {rowid : Int}
    {after : Dictionary AuthorRow String AuthorRow.author}
    (interns : Dictionary.Interns authorsTable.blank db.authors author rowid after) :
    ({ db with authors := after } : Db).Regular pubKey := by
  cases interns with
  | found _ => exact regular
  | created absent rows =>
    refine { regular with me := ?_, others := ?_ }
    · simp [rows, regular.me]
    · intro row member notMe
      rw [rows, List.mem_append, List.mem_singleton] at member
      rcases member with earlier | rfl
      · exact regular.others row earlier notMe
      · rfl

theorem findOrCreate_keeping {ρ : Type} {text : ρ → String} {table : DictionaryIn Db ρ String text} {inv : Db → Prop}
    (keeps : ∀ db key rowid after, inv db → Dictionary.Interns table.blank (table.read db) key rowid after →
      inv (table.write db after)) (key : String) :
    Action.Within (Keeping inv) (findOrCreate table .allRun key) := by
  intro connection holds
  obtain ⟨rowid, after, last, ended, interns⟩ := findOrCreate_interns table key connection
  rw [ended]
  exact keeps connection.db key rowid after holds interns

/-- Every function of the view keeps a database regular, however it ends. -/
theorem regular_compositional :
    Compositional fun action => Action.Within (Keeping (Db.Regular pubKey)) action where
  pure := .pure
  stop := .stop
  bind := .bind
  unwrap := .unwrap
  transaction := Sql.transaction_keeping
  key := findOrCreate_keeping fun _ _ _ _ regular _ => { regular with }
  author := findOrCreate_keeping fun _ _ _ _ regular interns => regular.internAuthor pubKey interns
  blob := findOrCreate_keeping fun _ _ _ _ regular _ => { regular with }
  message _ _ := Sql.change_keeping fun _ _ _ regular _ => { regular with }
  link := Sql.insertInto_keeping fun _ _ regular dense => { regular with linksRaw := dense regular.linksRaw }
  mention := Sql.insertInto_keeping fun _ _ regular dense => { regular with mentionsRaw := dense regular.mentionsRaw }
  blobLink :=
    Sql.insertInto_keeping fun _ _ regular dense => { regular with blobLinksRaw := dense regular.blobLinksRaw }
  branch := Sql.insertInto_keeping fun _ _ regular dense => { regular with branchesRaw := dense regular.branchesRaw }
  contact row := by
    have same : Sql.replaceInto contactsRaw row = Sql.insertInto contactsRaw row := by
      funext connection
      exact Sql.replaceInto_free rfl
    rw [same]
    apply Sql.insertInto_keeping
    exact fun _ _ regular dense => { regular with contactsRaw := dense regular.contactsRaw }
  about := Sql.insertInto_keeping fun _ _ regular dense => { regular with aboutsRaw := dense regular.aboutsRaw }

end

section
variable {SecretKey : Type} (crates : Crates SecretKey) (secretKeys : List SecretKey) (pubKey : String)

theorem Call.keeps_regular (call : Call) :
    Action.Within (Keeping (Db.Regular pubKey)) (call.perform crates secretKeys) := by
  cases call with
  | append seq item => exact (regular_compositional pubKey).append crates secretKeys seq item
  | appendBatch items => exact (regular_compositional pubKey).appendBatch crates secretKeys items

theorem history_regular (calls : List Call) : (connectionAfter crates secretKeys pubKey calls).db.Regular pubKey :=
  Action.after_within (Call.keeps_regular crates secretKeys pubKey) calls (created pubKey) (regular_created pubKey)

end

/-! ### Databases that hold the same facts -/

theorem rel_injective {ρ : Type} {text : ρ → String} {dictionary : Dictionary ρ String text} {rowid other : Option Int}
    {key : Option String} (related : Option.Rel dictionary.Maps rowid key)
    (another : Option.Rel dictionary.Maps other key) : rowid = other := by
  cases related with
  | none =>
    cases another
    rfl
  | some maps =>
    cases another with
    | some maps' => rw [maps.injective maps']

theorem MessageRow.Means.determined {names : Names} {rowid : Int} {row other : MessageRow} {fact : MessageFact}
    (means : Means names (rowid, row) fact) (means' : Means names (rowid, other) fact) : row = other := by
  apply MessageRow.ext
  · exact means.key.injective means'.key
  · exact means.seq.trans means'.seq.symm
  · exact means.receivedTime.trans means'.receivedTime.symm
  · exact means.assertedTime.trans means'.assertedTime.symm
  · exact rel_injective means.root means'.root
  · exact rel_injective means.fork means'.fork
  · exact means.author.injective means'.author
  · exact means.contentType.trans means'.contentType.symm
  · exact means.content.trans means'.content.symm
  · exact means.isDecrypted.trans means'.isDecrypted.symm

/-- A row that is determined by the two numbers in it is determined by their strings. -/
theorem edge_determined {ρ ρ' : Type} {text : ρ' → String} {keys : Dictionary KeyRow String KeyRow.key}
    {targets : Dictionary ρ' String text} {fromId toId : ρ → Int}
    (ext : ∀ {row other : ρ}, fromId row = fromId other → toId row = toId other → row = other) {row other : ρ}
    {fact : String × String} (means : keys.Maps (fromId row) fact.1 ∧ targets.Maps (toId row) fact.2)
    (means' : keys.Maps (fromId other) fact.1 ∧ targets.Maps (toId other) fact.2) : row = other :=
  ext (means.1.injective means'.1) (means.2.injective means'.2)

theorem ContactRow.Means.determined {names : Names} {rowid : Int} {row other : ContactRow}
    {fact : String × String × Bool × Int} (means : Means names (rowid, row) fact)
    (means' : Means names (rowid, other) fact) : row = other := by
  apply ContactRow.ext
  · exact means.author.injective means'.author
  · exact means.contact.injective means'.contact
  · exact means.isDecrypted.trans means'.isDecrypted.symm
  · exact means.state.trans means'.state.symm

theorem AboutRow.Means.determined {names : Names} {rowid : Int} {row other : AboutRow} {fact : AboutFact}
    (means : Means names (rowid, row) fact) (means' : Means names (rowid, other) fact) : row = other := by
  apply AboutRow.ext
  · exact means.fromKey.injective means'.fromKey
  · exact rel_injective means.toAuthor means'.toAuthor
  · exact rel_injective means.toKey means'.toKey

/-- The first author is me, and no other. -/
theorem Db.Regular.isMe {pubKey : String} {db : Db} (regular : db.Regular pubKey) :
    ∀ row ∈ db.authors.rows, row.2.isMe = if row.1 = 1 then some true else none := by
  intro row member
  obtain ⟨rowid, author⟩ := row
  split
  · next first =>
    cases first
    rw [db.authors.row_unique member regular.me]
  · next notMe => exact regular.others (rowid, author) member notMe

section
variable {pubKey : String} {db other : Db} {facts : Facts} (represents : Represents db facts)
  (represents' : Represents other facts)
include represents represents'

theorem names_eq_of_facts (regular : db.Regular pubKey) (regular' : other.Regular pubKey) :
    db.names = other.names := by
  have keys : db.keys = other.keys := by
    apply Dictionary.eq_of_numbers represents.keys represents'.keys fun _ => True
    · exact fun _ _ => trivial
    · exact fun _ _ => trivial
    · rintro rowid ⟨key⟩ ⟨key'⟩ - - rfl
      rfl
  have blobs : db.blobs = other.blobs := by
    apply Dictionary.eq_of_numbers represents.blobs represents'.blobs fun _ => True
    · exact fun _ _ => trivial
    · exact fun _ _ => trivial
    · rintro rowid ⟨blob⟩ ⟨blob'⟩ - - rfl
      rfl
  have authors : db.authors = other.authors := by
    apply Dictionary.eq_of_numbers represents.authors represents'.authors _ regular.isMe regular'.isMe
    rintro rowid ⟨author, isMe⟩ ⟨author', isMe'⟩ same same' rfl
    rw [AuthorRow.mk.injEq]
    exact ⟨rfl, same.trans same'.symm⟩
  rw [Db.names, Db.names, keys, authors, blobs]

/-- What a history leaves is determined by the facts. -/
theorem db_eq_of_facts (regular : db.Regular pubKey) (regular' : other.Regular pubKey) : db = other := by
  have names := names_eq_of_facts represents represents' regular regular'
  have messages : db.messagesRaw = other.messagesRaw := by
    have rowids := represents.flumeSeqs.trans represents'.flumeSeqs.symm
    apply Table.ext
    exact rows_eq_of_means represents.messages (names ▸ represents'.messages) rowids
      fun _ _ _ _ => MessageRow.Means.determined
  have links := Table.eq_of_means regular.linksRaw regular'.linksRaw represents.links
    (names ▸ represents'.links) fun _ _ _ _ => edge_determined LinkRow.ext
  have mentions := Table.eq_of_means regular.mentionsRaw regular'.mentionsRaw represents.mentions
    (names ▸ represents'.mentions) fun _ _ _ _ => edge_determined MentionRow.ext
  have blobLinks := Table.eq_of_means regular.blobLinksRaw regular'.blobLinksRaw represents.blobLinks
    (names ▸ represents'.blobLinks) fun _ _ _ _ => edge_determined BlobLinkRow.ext
  have branches := Table.eq_of_means regular.branchesRaw regular'.branchesRaw represents.branches
    (names ▸ represents'.branches) fun _ _ _ _ => edge_determined BranchRow.ext
  have contacts := Table.eq_of_means regular.contactsRaw regular'.contactsRaw represents.contacts
    (names ▸ represents'.contacts) fun _ _ _ _ => ContactRow.Means.determined
  have abouts := Table.eq_of_means regular.aboutsRaw regular'.aboutsRaw represents.abouts
    (names ▸ represents'.abouts) fun _ _ _ _ => AboutRow.Means.determined
  cases db
  cases other
  simp only [Db.names, Names.mk.injEq] at names
  simp only [Db.mk.injEq]
  exact ⟨names.1, names.2.1, names.2.2, messages, links, mentions, blobLinks, branches, contacts, abouts⟩

end

end FlumeViewSql

import FlumeViewSql.Relational.Query
import FlumeViewSql.Source.Schema

/-! The five SQL views, each as the joins of its `SELECT`, and the columns each shows. -/

set_option autoImplicit false

namespace FlumeViewSql

open Relational

structure MessagesViewRow extends MessageRow where
  flumeSeq : Int
  key : String
  root : Option String
  fork : Option String
  author : String
  deriving DecidableEq, Repr

structure LinksViewRow extends LinkRow where
  id : Int
  linkFromKey : String
  linkToKey : String
  deriving DecidableEq, Repr

structure BlobLinksViewRow extends BlobLinkRow where
  id : Int
  linkFromKey : String
  linkToBlob : String
  deriving DecidableEq, Repr

structure MentionsViewRow extends MentionRow where
  id : Int
  linkFrom : String
  linkTo : String
  flumeSeq : Int
  deriving DecidableEq, Repr

structure AboutsViewRow extends AboutRow where
  id : Int
  linkFromKey : String
  linkToKey : Option String
  linkToAuthor : Option String
  content : Cell
  deriving DecidableEq, Repr

namespace Db

variable (db : Db)

def messagesView : List MessagesViewRow :=
  db.messagesRaw.rows.flatMap fun (flumeSeq, message) =>
    (db.keys.join message.keyId).flatMap fun key =>
      (db.keys.leftJoin message.rootId).flatMap fun root =>
        (db.keys.leftJoin message.forkId).flatMap fun fork =>
          (db.authors.join message.authorId).map fun author =>
            { message with
              flumeSeq, key := key.key, root := root.map KeyRow.key, fork := fork.map KeyRow.key,
              author := author.author }

def linksView : List LinksViewRow :=
  db.linksRaw.rows.flatMap fun (id, link) =>
    (db.keys.join link.linkFromKeyId).flatMap fun key =>
      (db.keys.join link.linkToKeyId).map fun key2 =>
        { link with id, linkFromKey := key.key, linkToKey := key2.key }

def blobLinksView : List BlobLinksViewRow :=
  db.blobLinksRaw.rows.flatMap fun (id, link) =>
    (db.keys.join link.linkFromKeyId).flatMap fun key =>
      (db.blobs.join link.linkToBlobId).map fun blob =>
        { link with id, linkFromKey := key.key, linkToBlob := blob.blob }

def mentionsView : List MentionsViewRow :=
  db.mentionsRaw.rows.flatMap fun (id, mention) =>
    (db.keys.join mention.linkFromKeyId).flatMap fun key =>
      (db.authors.join mention.linkToAuthorId).flatMap fun author =>
        (db.messagesRaw.rows.filter fun row => row.2.keyId = mention.linkFromKeyId).map fun (flumeSeq, _) =>
          { mention with id, linkFrom := key.key, linkTo := author.author, flumeSeq }

def aboutsView : List AboutsViewRow :=
  db.aboutsRaw.rows.flatMap fun (id, about) =>
    (db.keys.join about.linkFromKeyId).flatMap fun keyFrom =>
      (db.messagesView.filter fun message => message.keyId = about.linkFromKeyId).flatMap fun message =>
        (db.keys.leftJoin about.linkToKeyId).flatMap fun keyTo =>
          (db.authors.leftJoin about.linkToAuthorId).map fun authorTo =>
            { about with
              id, linkFromKey := keyFrom.key, linkToKey := keyTo.map KeyRow.key,
              linkToAuthor := authorTo.map AuthorRow.author, content := message.content }

/-- `branches_raw` with both ids resolved through `keys`; the source has no view for it. -/
def resolvedBranches : List (String × String) :=
  db.branchesRaw.rows.flatMap fun (_, branch) =>
    (db.keys.join branch.linkFromKeyId).flatMap fun key =>
      (db.keys.join branch.linkToKeyId).map fun key2 => (key.key, key2.key)

/-- `contacts_raw` with both authors resolved: author, contact, `is_decrypted` and state. -/
def resolvedContacts : List (String × String × Bool × Int) :=
  db.contactsRaw.rows.flatMap fun (_, contact) =>
    (db.authors.join contact.authorId).flatMap fun author =>
      (db.authors.join contact.contactAuthorId).map fun contactAuthor =>
        (author.author, contactAuthor.author, contact.isDecrypted, contact.state)

end Db

/-! ### Columns -/

def Cell.ofText (text : Option String) : Cell := (text.map Cell.text).getD .null

def Cell.ofInteger (value : Option Int) : Cell := (value.map Cell.integer).getD .null

/-- A `BOOLEAN` column holds 1 or 0. -/
def Cell.ofBool (value : Bool) : Cell := .integer value.toInt

def messagesColumns : List (String × (MessagesViewRow → Cell)) :=
  [("flume_seq", (.integer ·.flumeSeq)), ("key_id", (.integer ·.keyId)), ("seq", (.integer ·.seq.toNat)),
    ("received_time", (.real ·.receivedTime)), ("asserted_time", (.real ·.assertedTime)),
    ("root_id", (.ofInteger ·.rootId)), ("fork_id", (.ofInteger ·.forkId)), ("author_id", (.integer ·.authorId)),
    ("content", (·.content)), ("content_type", (.ofText ·.contentType)), ("is_decrypted", (.ofBool ·.isDecrypted)),
    ("key", (.text ·.key)), ("root", (.ofText ·.root)), ("fork", (.ofText ·.fork)), ("author", (.text ·.author))]

def linksColumns : List (String × (LinksViewRow → Cell)) :=
  [("id", (.integer ·.id)), ("link_from_key_id", (.integer ·.linkFromKeyId)),
    ("link_to_key_id", (.integer ·.linkToKeyId)), ("link_from_key", (.text ·.linkFromKey)),
    ("link_to_key", (.text ·.linkToKey))]

def blobLinksColumns : List (String × (BlobLinksViewRow → Cell)) :=
  [("id", (.integer ·.id)), ("link_from_key_id", (.integer ·.linkFromKeyId)),
    ("link_to_blob_id", (.integer ·.linkToBlobId)), ("link_from_key", (.text ·.linkFromKey)),
    ("link_to_blob", (.text ·.linkToBlob))]

def aboutsColumns : List (String × (AboutsViewRow → Cell)) :=
  [("id", (.integer ·.id)), ("link_from_key_id", (.integer ·.linkFromKeyId)),
    ("link_to_key_id", (.ofInteger ·.linkToKeyId)), ("link_to_author_id", (.ofInteger ·.linkToAuthorId)),
    ("link_from_key", (.text ·.linkFromKey)), ("link_to_key", (.ofText ·.linkToKey)),
    ("link_to_author", (.ofText ·.linkToAuthor)), ("content", (·.content))]

def mentionsColumns : List (String × (MentionsViewRow → Cell)) :=
  [("id", (.integer ·.id)), ("link_from_key_id", (.integer ·.linkFromKeyId)),
    ("link_to_author_id", (.integer ·.linkToAuthorId)), ("link_from", (.text ·.linkFrom)),
    ("link_to", (.text ·.linkTo)), ("flume_seq", (.integer ·.flumeSeq))]

/-- The views by name. -/
def Db.view (db : Db) : String → Option (Relation Cell)
  | "messages" => some (.of messagesColumns db.messagesView)
  | "links" => some (.of linksColumns db.linksView)
  | "blob_links" => some (.of blobLinksColumns db.blobLinksView)
  | "abouts" => some (.of aboutsColumns db.aboutsView)
  | "mentions" => some (.of mentionsColumns db.mentionsView)
  | _ => none

end FlumeViewSql

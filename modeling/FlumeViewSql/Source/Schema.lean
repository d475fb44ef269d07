import FlumeViewSql.Relational.Statements

/-! The ten tables that the view fills, as `create_tables` declares them.

A rowid column (`id` or `flume_seq`, `INTEGER PRIMARY KEY`) is the rowid of the row.
The `UNIQUE` columns are `keys.key`, `authors.author`, `blobs.blob` and
`messages_raw.key_id`; no other table has a constraint beside its primary key.
-/

set_option autoImplicit false

namespace FlumeViewSql

open Relational

/-- An `f64`, by its bits. -/
abbrev Float64 := UInt64

/-- What a column of type `REAL` gives back: SQLite keeps whole numbers as integers, so a zero loses its sign. -/
def realColumn (value : Float64) : Float64 := if value = 0x8000000000000000 then 0 else value

/-- A value as SQLite stores it. -/
inductive Cell where
  | null
  | integer (value : Int)
  | real (value : Float64)
  | text (value : String)
  deriving DecidableEq, Inhabited, Repr

structure KeyRow where
  key : String
  deriving DecidableEq, Repr

structure AuthorRow where
  author : String
  isMe : Option Bool
  deriving DecidableEq, Repr

structure BlobRow where
  blob : String
  deriving DecidableEq, Repr

@[ext]
structure MessageRow where
  keyId : Int
  seq : UInt32
  receivedTime : Float64
  assertedTime : Float64
  rootId : Option Int
  forkId : Option Int
  authorId : Int
  contentType : Option String
  content : Cell
  isDecrypted : Bool
  deriving DecidableEq, Repr

@[ext]
structure LinkRow where
  linkFromKeyId : Int
  linkToKeyId : Int
  deriving DecidableEq, Repr

@[ext]
structure MentionRow where
  linkFromKeyId : Int
  linkToAuthorId : Int
  deriving DecidableEq, Repr

@[ext]
structure BlobLinkRow where
  linkFromKeyId : Int
  linkToBlobId : Int
  deriving DecidableEq, Repr

@[ext]
structure BranchRow where
  linkFromKeyId : Int
  linkToKeyId : Int
  deriving DecidableEq, Repr

@[ext]
structure ContactRow where
  authorId : Int
  contactAuthorId : Int
  isDecrypted : Bool
  state : Int
  deriving DecidableEq, Repr

@[ext]
structure AboutRow where
  linkFromKeyId : Int
  linkToAuthorId : Option Int
  linkToKeyId : Option Int
  deriving DecidableEq, Repr

/-- A table whose only constraint is its primary key. -/
abbrev PlainTable (ρ : Type) := Table ρ Unit fun _ => none

structure Db where
  keys : Dictionary KeyRow String KeyRow.key
  authors : Dictionary AuthorRow String AuthorRow.author
  blobs : Dictionary BlobRow String BlobRow.blob
  messagesRaw : Table MessageRow Int fun row => some row.keyId
  linksRaw : PlainTable LinkRow
  mentionsRaw : PlainTable MentionRow
  blobLinksRaw : PlainTable BlobLinkRow
  branchesRaw : PlainTable BranchRow
  contactsRaw : PlainTable ContactRow
  aboutsRaw : PlainTable AboutRow
  deriving DecidableEq

def Db.empty : Db where
  keys := .empty
  authors := .empty
  blobs := .empty
  messagesRaw := .empty
  linksRaw := .empty
  mentionsRaw := .empty
  blobLinksRaw := .empty
  branchesRaw := .empty
  contactsRaw := .empty
  aboutsRaw := .empty

/-- What `FlumeViewSql::new` leaves in these tables: the author that is me. -/
def Db.created (pubKey : String) : Db :=
  { Db.empty with authors := ⟨[(1, ⟨pubKey, some true⟩)], List.pairwise_singleton _ _, List.nodup_singleton _⟩ }

def keysTable : DictionaryIn Db KeyRow String KeyRow.key where
  read db := db.keys
  write db table := { db with keys := table }
  read_write _ _ := rfl
  write_read _ := rfl
  blank key := ⟨key⟩
  names _ := rfl

def authorsTable : DictionaryIn Db AuthorRow String AuthorRow.author where
  read db := db.authors
  write db table := { db with authors := table }
  read_write _ _ := rfl
  write_read _ := rfl
  blank author := ⟨author, none⟩
  names _ := rfl

def blobsTable : DictionaryIn Db BlobRow String BlobRow.blob where
  read db := db.blobs
  write db table := { db with blobs := table }
  read_write _ _ := rfl
  write_read _ := rfl
  blank blob := ⟨blob⟩
  names _ := rfl

def messagesRaw : TableIn Db MessageRow Int fun row => some row.keyId where
  read db := db.messagesRaw
  write db table := { db with messagesRaw := table }
  read_write _ _ := rfl
  write_read _ := rfl

def linksRaw : TableIn Db LinkRow Unit fun _ => none where
  read db := db.linksRaw
  write db table := { db with linksRaw := table }
  read_write _ _ := rfl
  write_read _ := rfl

def mentionsRaw : TableIn Db MentionRow Unit fun _ => none where
  read db := db.mentionsRaw
  write db table := { db with mentionsRaw := table }
  read_write _ _ := rfl
  write_read _ := rfl

def blobLinksRaw : TableIn Db BlobLinkRow Unit fun _ => none where
  read db := db.blobLinksRaw
  write db table := { db with blobLinksRaw := table }
  read_write _ _ := rfl
  write_read _ := rfl

def branchesRaw : TableIn Db BranchRow Unit fun _ => none where
  read db := db.branchesRaw
  write db table := { db with branchesRaw := table }
  read_write _ _ := rfl
  write_read _ := rfl

def contactsRaw : TableIn Db ContactRow Unit fun _ => none where
  read db := db.contactsRaw
  write db table := { db with contactsRaw := table }
  read_write _ _ := rfl
  write_read _ := rfl

def aboutsRaw : TableIn Db AboutRow Unit fun _ => none where
  read db := db.aboutsRaw
  write db table := { db with aboutsRaw := table }
  read_write _ _ := rfl
  write_read _ := rfl

end FlumeViewSql

import FlumeViewSql.Source.Interning
import FlumeViewSql.Source.SqlViews
import Mathlib.Algebra.Ring.Int.Defs
import Mathlib.Algebra.Ring.Nat

/-! `FlumeViewSql::new`: opening a database file, and setting it up when it is not current.

No transaction surrounds the statements, so each one commits by itself. What becomes of
each of them is an argument: it runs, it fails, or the process crashes before it.
-/

set_option autoImplicit false

namespace FlumeViewSql

open Execution Relational

/-! ### Database files -/

inductive SchemaObject where
  | table (name : String) (columns : List String)
  | index (name : String) (table : String) (columns : List String)
  | view (name : String) (columns : List String)
  deriving DecidableEq, Repr

def SchemaObject.name : SchemaObject → String
  | .table name _ => name
  | .index name _ _ => name
  | .view name _ => name

structure MigrationRow where
  version : Cell
  deriving DecidableEq, Repr

/-- What is stored at the path; the rows of the ten other tables are in `tables`. -/
structure DbFile where
  objects : List SchemaObject
  migrations : PlainTable MigrationRow
  tables : Db
  deriving DecidableEq

/-- No file, or one that was just created. -/
def DbFile.empty : DbFile := ⟨[], .empty, .empty⟩

def migrationsTable : TableIn DbFile MigrationRow Unit fun _ => none where
  read file := file.migrations
  write file table := { file with migrations := table }
  read_write _ _ := rfl
  write_read _ := rfl

def DbFile.hasColumns (file : DbFile) (table : String) (columns : List String) : Bool :=
  file.objects.any fun
    | .table name present => name = table ∧ ∀ column ∈ columns, column ∈ present
    | _ => false

/-- What `CREATE` refers to is there. -/
def DbFile.admits (file : DbFile) : SchemaObject → Bool
  | .index _ table columns => file.hasColumns table columns
  | _ => true

/-! ### Statements -/

/-- `CREATE … IF NOT EXISTS`. -/
def createIfNotExists (object : SchemaObject) : Sql DbFile Unit := fun connection =>
  -- Tables, indices and views share one name space.
  if object.name ∈ connection.db.objects.map SchemaObject.name then ⟨.ok (), connection⟩
  else if connection.db.admits object then
    ⟨.ok (), { connection with db := { connection.db with objects := connection.db.objects ++ [object] } }⟩
  else ⟨.error (.err .failure), connection⟩

/-- A statement on the ten tables, once they exist. -/
def onTables {α : Type} (statement : Sql Db α) : Sql DbFile α := fun connection =>
  let ended := statement.run ⟨connection.db.tables, connection.lastInsertRowid⟩
  ⟨ended.outcome, ⟨{ connection.db with tables := ended.state.db }, ended.state.lastInsertRowid⟩⟩

/-- `row.get_checked` for a `u32`. -/
def Cell.asU32 : Cell → Option UInt32
  | .integer value => if 0 ≤ value ∧ value < 2 ^ 32 then some (UInt32.ofNat value.toNat) else none
  | _ => none

/-- `SELECT version FROM migrations LIMIT 1`, read as a `u32`: the row with the smallest rowid comes first. -/
def DbFile.version (file : DbFile) : Except SqlError UInt32 :=
  if file.hasColumns "migrations" ["version"] then
    match file.migrations.rows.find? fun row => ∀ other ∈ file.migrations.rows, row.1 ≤ other.1 with
    | some row => row.2.version.asU32.elim (.error .failure) .ok
    | none => .error .queryReturnedNoRows
  else .error .failure

def selectVersion : Sql DbFile UInt32 := fun connection =>
  match connection.db.version with
  | .ok version => ⟨.ok version, connection⟩
  | .error why => ⟨.error (.err why), connection⟩

/-- `UPDATE authors SET is_me = 1 WHERE id = ?`. -/
def updateIsMe (id : Int) : Sql Db Unit := fun connection =>
  ⟨.ok (), { connection with db := { connection.db with
    authors := connection.db.authors.update id (fun row => { row with isMe := some true }) fun _ => rfl } }⟩

/-! ### Opening -/

/-- What becomes of the steps of one call of `new`. -/
structure OpenAnswers where
  createConnection : Answer
  selectVersion : Answer
  removeFile : Answer
  createAgain : Answer
  create : SchemaObject → Answer
  setDbVersion : Answer
  findOrCreateAuthor : Answers
  updateIsMe : Answer
  pragma : String → Answer

/-- A call that nothing disturbs. -/
def OpenAnswers.allRun : OpenAnswers where
  createConnection := .runs
  selectVersion := .runs
  removeFile := .runs
  createAgain := .runs
  create _ := .runs
  setDbVersion := .runs
  findOrCreateAuthor := .allRun
  updateIsMe := .runs
  pragma _ := .runs

def migrationVersionNumber : UInt32 := 1

/-- A connection has inserted nothing yet. -/
def createConnection (answer : Answer) : Sql DbFile Unit :=
  Sql.attempt answer fun connection => ⟨.ok (), ⟨connection.db, 0⟩⟩

/-- Every failure of the query counts as "not up to date". -/
def isDbUpToDate (answer : Answer) : Sql DbFile Bool :=
  (do
    let version ← Sql.attempt answer selectVersion
    return version == migrationVersionNumber).orElse fun _ => pure false

def removeFile (answer : Answer) : Sql DbFile Unit :=
  Sql.attempt answer fun connection => ⟨.ok (), { connection with db := .empty }⟩

/-! The functions that create tables, indices and views differ only in what they create. -/

/-- What a function creates, one statement for each object. -/
abbrev Creates := List SchemaObject

def createMigrationsTables : Creates := [.table "migrations" ["id", "version"]]

def createMessagesTables : Creates :=
  [.table "messages_raw" ["flume_seq", "key_id", "seq", "received_time", "asserted_time", "root_id", "fork_id",
    "author_id", "content_type", "content", "is_decrypted"]]

def createAuthorsTables : Creates := [.table "authors" ["id", "author", "is_me"]]

def createKeysTables : Creates := [.table "keys" ["id", "key"]]

def createLinksTables : Creates := [.table "links_raw" ["id", "link_from_key_id", "link_to_key_id"]]

def createContactsTables : Creates :=
  [.table "contacts_raw" ["id", "author_id", "contact_author_id", "is_decrypted", "state"]]

def createBranchesTables : Creates := [.table "branches_raw" ["id", "link_from_key_id", "link_to_key_id"]]

def createMentionsTables : Creates := [.table "mentions_raw" ["id", "link_from_key_id", "link_to_author_id"]]

def createAboutsTables : Creates :=
  [.table "abouts_raw" ["id", "link_from_key_id", "link_to_author_id", "link_to_key_id"]]

def createBlobsTables : Creates := [.table "blobs" ["id", "blob"]]

def createBlobLinksTables : Creates := [.table "blob_links_raw" ["id", "link_from_key_id", "link_to_blob_id"]]

def createTables : Creates :=
  createMigrationsTables ++ createMessagesTables ++ createAuthorsTables ++ createKeysTables ++ createLinksTables ++
    createContactsTables ++ createBranchesTables ++ createMentionsTables ++ createAboutsTables ++
    createBlobsTables ++ createBlobLinksTables

def createContentTypeIndex : Creates := [.index "content_type_index" "messages_raw" ["content_type"]]

def createRootIndex : Creates := [.index "root_id_index" "messages_raw" ["root_id"]]

def createAuthorIndex : Creates := [.index "author_id_index" "messages_raw" ["author_id"]]

def createMessagesIndices : Creates := createContentTypeIndex ++ createRootIndex ++ createAuthorIndex

def createLinksToIndex : Creates := [.index "links_id_index" "links_raw" ["link_to_key_id", "link_from_key_id"]]

def createLinksIndices : Creates := createLinksToIndex

def createBlobLinksIndex : Creates :=
  [.index "blob_links_index" "blob_links_raw" ["link_to_blob_id", "link_from_key_id"]]

def createBlobLinksIndices : Creates := createBlobLinksIndex

def createContactsAuthorIdIndex : Creates := [.index "contacts_raw_author_id_index" "contacts_raw" ["author_id"]]

def createContactsStateIndex : Creates := [.index "contacts_raw_state_index" "contacts_raw" ["state"]]

def createContactsIndices : Creates := createContactsAuthorIdIndex ++ createContactsStateIndex

def createKeysIndices : Creates := []

def createBranchesIndices : Creates := []

def createIsMeIndex : Creates := [.index "authors_is_me_index" "authors" ["is_me"]]

def createAuthorsIndices : Creates := createIsMeIndex

def createAboutsIndices : Creates :=
  [.index "abouts_raw_index" "abouts_raw" ["link_from_key_id", "link_to_key_id", "link_to_author_id"]]

def createMentionsToIndex : Creates :=
  [.index "mentions_id_index" "mentions_raw" ["link_to_author_id", "link_from_key_id"]]

def createMentionsIndices : Creates := createMentionsToIndex

def createIndices : Creates :=
  createMessagesIndices ++ createLinksIndices ++ createBlobLinksIndices ++ createContactsIndices ++
    createKeysIndices ++ createBranchesIndices ++ createAuthorsIndices ++ createAboutsIndices ++ createMentionsIndices

def createMessagesViews : Creates := [.view "messages" (messagesColumns.map Prod.fst)]

def createLinksViews : Creates := [.view "links" (linksColumns.map Prod.fst)]

def createBlobLinksViews : Creates := [.view "blob_links" (blobLinksColumns.map Prod.fst)]

def createAboutsViews : Creates := [.view "abouts" (aboutsColumns.map Prod.fst)]

def createMentionsViews : Creates := [.view "mentions" (mentionsColumns.map Prod.fst)]

def createViews : Creates :=
  createMessagesViews ++ createLinksViews ++ createBlobLinksViews ++ createAboutsViews ++ createMentionsViews

section
variable (answers : OpenAnswers)

def create (objects : Creates) : Sql DbFile Unit :=
  Action.forEach objects fun object => Sql.attempt (answers.create object) (createIfNotExists object)

def setDbVersion : Sql DbFile Unit :=
  Sql.attempt answers.setDbVersion (Sql.insertAt migrationsTable 0 ⟨.integer migrationVersionNumber.toNat⟩)

def setAuthorThatIsMe (myKey : String) : Sql DbFile Unit := do
  let myKeyId ← onTables (findOrCreate authorsTable answers.findOrCreateAuthor myKey)
  Sql.attempt answers.updateIsMe (onTables (updateIsMe myKeyId))

/-- The block of `new` for a file that is not up to date. -/
def rebuild (pubKey : String) : Sql DbFile Unit := do
  -- The connection to the removed file is dropped when the next one takes its place.
  (removeFile answers.removeFile).unwrap
  createConnection answers.createAgain
  create answers createTables
  create answers createIndices
  create answers createViews
  setDbVersion answers
  setAuthorThatIsMe answers pubKey

/-- Neither pragma changes what is stored. -/
def setPragmas : Sql DbFile Unit := do
  (Sql.attempt (answers.pragma "synchronous = OFF") (pure ())).unwrap
  (Sql.attempt (answers.pragma "page_size = 4096") (pure ())).unwrap

/-- `FlumeViewSql::new`. Only `Ok(false)` has the file rebuilt. -/
def new (pubKey : String) : Sql DbFile Unit := do
  createConnection answers.createConnection
  -- An error would leave the file as it is; `is_db_up_to_date` returns none.
  let upToDate ← (isDbUpToDate answers.selectVersion).orElse fun _ => pure true
  if upToDate = false then
    rebuild answers pubKey
  setPragmas answers

end

end FlumeViewSql

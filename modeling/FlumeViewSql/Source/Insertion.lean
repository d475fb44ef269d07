import FlumeViewSql.Source.Message
import FlumeViewSql.Source.Interning

/-! The functions that write one message into the tables.

The source has one module for each table; here they stand in the order in which
`append_item` calls them.
-/

set_option autoImplicit false

namespace FlumeViewSql

open Execution Relational
open Json (Value)

variable {SecretKey : Type}

/-- Rust's `text.starts_with(pattern)`. -/
def startsWith (pattern text : String) : Bool := pattern.toList.isPrefixOf text.toList

/-- Rust's `text.get(0..1)`: the first byte, when it is a whole character. -/
def firstByte (text : String) : Option String :=
  match text.toList with
  | first :: _ => if first.utf8Size = 1 then some (.ofList [first]) else none
  | [] => none

/-- `find_values_in_object_by_key`: the values found are pushed behind those found before. An
element of an array is always visited, a member of an object only if it is an array or an object. -/
def findValuesInObjectByKey (key : String) : Value → List Value → List Value
  | .array size element, values =>
    (List.finRange size).foldl (fun found position => findValuesInObjectByKey key (element position) found) values
  | .object names member, values =>
    let own := match (Value.object names member).get key with
      | some value => values ++ [value]
      | none => values
    (List.finRange names.list.length).foldl (fun found position =>
      match member position with
      | .array _ _ | .object _ _ => findValuesInObjectByKey key (member position) found
      | _ => found) own
  | _, values => values

/-- The common body of `insert_links`, `insert_mentions` and `insert_blob_links`. -/
def insertTargets {ρ : Type} (table : TableIn Db ρ Unit fun _ => none) (pattern : String)
    (findOrCreate : String → Sql Db Int) (row : Int → Int → ρ) (links : List Value) (messageKeyId : Int) :
    Sql Db Unit :=
  Action.forEach ((links.filterMap Value.asStr).filter (startsWith pattern)) fun link => do
    let linkId ← (findOrCreate link).unwrap
    (Sql.insertInto table (row messageKeyId linkId)).unwrap

def insertLinks : List Value → Int → Sql Db Unit := insertTargets linksRaw "%" findOrCreateKey LinkRow.mk

-- The number stored as `link_to_author_id` comes from `find_or_create_key`.
def insertMentions : List Value → Int → Sql Db Unit := insertTargets mentionsRaw "@" findOrCreateKey MentionRow.mk

def insertBlobLinks : List Value → Int → Sql Db Unit :=
  insertTargets blobLinksRaw "&" findOrCreateBlob BlobLinkRow.mk

/-- The branches that `insert_branches` collects; `none` is its panic at an element that is no string. -/
def branches (content : Value) : Option (List String) :=
  match content.get "branch" with
  | some (.array _ element) => (List.ofFn element).mapM Value.asStr
  | some (.string branch) => some [branch]
  | _ => some []

def insertBranches (message : SsbMessage) (messageKeyId : Int) : Sql Db Unit := do
  -- All branches are collected before the first of them is looked up.
  let branches ← Action.unwrapOption (branches message.value.content)
  Action.forEach branches fun branch => do
    let linkToKeyId ← (findOrCreateKey branch).unwrap
    (Sql.insertInto branchesRaw ⟨messageKeyId, linkToKeyId⟩).unwrap

/-- The id of the key that a member names, if it is a string: `root` and `fork`. -/
def findMemberKey (content : Value) (name : String) : Sql Db (Option Int) :=
  match content.index name with
  | .string key => do
    let id ← (findOrCreateKey key).unwrap
    pure (some id)
  | _ => pure none

def insertMessage (crates : Crates SecretKey) (message : SsbMessage) (seq messageKeyId : Int)
    (isDecrypted : Bool) : Sql Db Unit := do
  let rootKeyId ← findMemberKey message.value.content "root"
  let forkKeyId ← findMemberKey message.value.content "fork"
  let authorId ← findOrCreateAuthor message.value.author
  Sql.insertAt messagesRaw seq {
    keyId := messageKeyId
    seq := message.value.sequence
    receivedTime := realColumn message.timestamp
    assertedTime := realColumn message.value.timestamp
    rootId := rootKeyId
    forkId := forkKeyId
    authorId := authorId
    contentType := (message.value.content.index "type").asStr
    content := crates.contentCell message.value.content
    isDecrypted := isDecrypted }

/-- What a contact message says: blocking goes before following. -/
def contactState (content : Value) : Int :=
  let isBlocking := (content.index "blocking").asBool.getD false
  let isFollowing := (content.index "following").asBool.getD false
  if isBlocking then -1 else if isFollowing then 1 else 0

def insertOrUpdateContacts (message : SsbMessage) (_messageKeyId : Int) (isDecrypted : Bool) : Sql Db Unit :=
  match message.value.content.index "contact" with
  | .string contact => do
    let authorId ← (findOrCreateAuthor message.value.author).unwrap
    let contactAuthorId ← (findOrCreateAuthor contact).unwrap
    -- The table has no `UNIQUE` column that `REPLACE` could act on.
    (Sql.replaceInto contactsRaw
      ⟨authorId, contactAuthorId, isDecrypted, contactState message.value.content⟩).unwrap
  | _ => pure ()

/-- The pair `(link_to_author_id, link_to_key_id)` of an about, by its first character. -/
def aboutTarget (aboutKey : String) : Sql Db (Option Int × Option Int) :=
  match firstByte aboutKey with
  | some "@" => do
    let key ← (findOrCreateAuthor aboutKey).unwrap
    pure (some key, none)
  | some "%" => do
    let key ← (findOrCreateKey aboutKey).unwrap
    pure (none, some key)
  | _ => pure (none, none)

def insertAbouts (message : SsbMessage) (messageKeyId : Int) : Sql Db Unit :=
  match message.value.content.index "about" with
  | .string aboutKey => do
    let (linkToAuthorId, linkToKeyId) ← aboutTarget aboutKey
    (Sql.insertInto aboutsRaw ⟨messageKeyId, linkToAuthorId, linkToKeyId⟩).unwrap
  | _ => pure ()

example : startsWith "%" "%a" = true ∧ startsWith "%" "" = false := by decide

example : firstByte "" = none ∧ firstByte "é" = none ∧ firstByte "@a" = some "@" := by decide

end FlumeViewSql

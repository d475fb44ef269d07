import FlumeViewSql.Source.View

/-! Properties that every function of the view has because its statements have them.

The functions of the source are put together from a few kinds of statements, by sequencing,
`unwrap`, loops and one transaction. This walks through them once, for any such property.
-/

set_option autoImplicit false

namespace FlumeViewSql

open Execution Relational
open Json (Value)

/-- The statements of the source have the property, and what is put together from actions that
have it has it too. -/
structure Compositional (Holds : {α : Type} → Sql Db α → Prop) : Prop where
  pure : ∀ {α : Type} (a : α), Holds (pure a : Sql Db α)
  stop : ∀ {α : Type} (why : Stop SqlError), Holds (Action.stop why : Sql Db α)
  bind : ∀ {α β : Type} {action : Sql Db α} {next : α → Sql Db β},
    Holds action → (∀ a, Holds (next a)) → Holds (action >>= next)
  unwrap : ∀ {α : Type} {action : Sql Db α}, Holds action → Holds action.unwrap
  transaction : ∀ {α : Type} {body : Sql Db α}, Holds body → Holds (Sql.transaction body)
  key : ∀ key, Holds (findOrCreateKey key)
  author : ∀ author, Holds (findOrCreateAuthor author)
  blob : ∀ blob, Holds (findOrCreateBlob blob)
  message : ∀ seq row, Holds (Sql.insertAt messagesRaw seq row)
  link : ∀ row, Holds (Sql.insertInto linksRaw row)
  mention : ∀ row, Holds (Sql.insertInto mentionsRaw row)
  blobLink : ∀ row, Holds (Sql.insertInto blobLinksRaw row)
  branch : ∀ row, Holds (Sql.insertInto branchesRaw row)
  contact : ∀ row, Holds (Sql.replaceInto contactsRaw row)
  about : ∀ row, Holds (Sql.insertInto aboutsRaw row)

namespace Compositional

variable {Holds : {α : Type} → Sql Db α → Prop} (compositional : Compositional Holds)
include compositional

theorem unwrapOption {α : Type} (value : Option α) : Holds (Action.unwrapOption value : Sql Db α) := by
  cases value with
  | some a => exact compositional.pure a
  | none => exact compositional.stop .panic

theorem forEach {A : Type} (items : List A) {body : A → Sql Db Unit} (each : ∀ item, Holds (body item)) :
    Holds (Action.forEach items body) := by
  induction items with
  | nil => exact compositional.pure ()
  | cons item rest ih => exact compositional.bind (each item) fun _ => ih

theorem insertTargets {ρ : Type} {table : TableIn Db ρ Unit fun _ => none} (pattern : String)
    {find : String → Sql Db Int} {row : Int → Int → ρ} (found : ∀ link, Holds (find link))
    (inserted : ∀ row, Holds (Sql.insertInto table row)) (links : List Value) (messageKeyId : Int) :
    Holds (FlumeViewSql.insertTargets table pattern find row links messageKeyId) := by
  apply compositional.forEach
  intro link
  apply compositional.bind (compositional.unwrap (found link))
  exact fun linkId => compositional.unwrap (inserted _)

theorem insertBranches (message : SsbMessage) (messageKeyId : Int) :
    Holds (insertBranches message messageKeyId) := by
  apply compositional.bind (compositional.unwrapOption _)
  intro collected
  apply compositional.forEach
  intro branch
  apply compositional.bind (compositional.unwrap (compositional.key branch))
  exact fun linkToKeyId => compositional.unwrap (compositional.branch _)

theorem findMemberKey (content : Value) (name : String) : Holds (findMemberKey content name) := by
  unfold FlumeViewSql.findMemberKey
  split
  · next key _ => exact compositional.bind (compositional.unwrap (compositional.key key)) fun id => compositional.pure _
  · exact compositional.pure none

theorem insertOrUpdateContacts (message : SsbMessage) (messageKeyId : Int) (isDecrypted : Bool) :
    Holds (insertOrUpdateContacts message messageKeyId isDecrypted) := by
  unfold FlumeViewSql.insertOrUpdateContacts
  split
  · next contact _ =>
    apply compositional.bind (compositional.unwrap (compositional.author _))
    intro authorId
    apply compositional.bind (compositional.unwrap (compositional.author contact))
    exact fun contactAuthorId => compositional.unwrap (compositional.contact _)
  · exact compositional.pure ()

theorem aboutTarget (aboutKey : String) : Holds (aboutTarget aboutKey) := by
  unfold FlumeViewSql.aboutTarget
  split
  · exact compositional.bind (compositional.unwrap (compositional.author aboutKey)) fun key => compositional.pure _
  · exact compositional.bind (compositional.unwrap (compositional.key aboutKey)) fun key => compositional.pure _
  · exact compositional.pure (none, none)

theorem insertAbouts (message : SsbMessage) (messageKeyId : Int) : Holds (insertAbouts message messageKeyId) := by
  unfold FlumeViewSql.insertAbouts
  split
  · next aboutKey _ =>
    apply compositional.bind (compositional.aboutTarget aboutKey)
    exact fun ids => compositional.unwrap (compositional.about _)
  · exact compositional.pure ()

variable {SecretKey : Type} (crates : Crates SecretKey)

theorem insertMessage (message : SsbMessage) (seq messageKeyId : Int) (isDecrypted : Bool) :
    Holds (insertMessage crates message seq messageKeyId isDecrypted) := by
  apply compositional.bind (compositional.findMemberKey _ "root")
  intro rootKeyId
  apply compositional.bind (compositional.findMemberKey _ "fork")
  intro forkKeyId
  apply compositional.bind (compositional.author _)
  exact fun authorId => compositional.message seq _

theorem storeMessage (seq : Sequence) (isDecrypted : Bool) (message : SsbMessage) :
    Holds (storeMessage crates seq isDecrypted message) := by
  apply compositional.bind (compositional.unwrap (compositional.key message.key))
  intro messageKeyId
  apply compositional.bind (compositional.insertTargets "%" compositional.key compositional.link _ messageKeyId)
  intro _
  apply compositional.bind (compositional.insertTargets "@" compositional.key compositional.mention _ messageKeyId)
  intro _
  apply compositional.bind (compositional.insertTargets "&" compositional.blob compositional.blobLink _ messageKeyId)
  intro _
  apply compositional.bind (compositional.insertBranches message messageKeyId)
  intro _
  apply compositional.bind (compositional.insertMessage crates message _ messageKeyId isDecrypted)
  intro _
  apply compositional.bind (compositional.insertOrUpdateContacts message messageKeyId isDecrypted)
  exact fun _ => compositional.insertAbouts message messageKeyId

variable (secretKeys : List SecretKey)

theorem appendItem (seq : Sequence) (item : Bytes) : Holds (appendItem crates secretKeys seq item) := by
  apply compositional.bind (compositional.unwrapOption _)
  exact fun (isDecrypted, message) => compositional.storeMessage crates seq isDecrypted message

theorem append (seq : Sequence) (item : Bytes) : Holds (append crates secretKeys seq item) :=
  compositional.unwrap (compositional.appendItem crates secretKeys seq item)

theorem appendBatch (items : List (Sequence × Bytes)) : Holds (appendBatch crates secretKeys items) := by
  apply compositional.transaction
  apply compositional.forEach
  exact fun item => compositional.unwrap (compositional.appendItem crates secretKeys item.1 item.2)

end Compositional

end FlumeViewSql

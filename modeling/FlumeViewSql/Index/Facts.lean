import FlumeViewSql.Source.View

/-! The index without its numbers: what the view is meant to record, as strings.

`Facts` lists what has been recorded, in order. It is stated from the purpose of the
tables; the tables hold the same facts through the numbers of three dictionaries.
Which strings were interned, and when, is part of it: it decides the numbers.
-/

set_option autoImplicit false

namespace FlumeViewSql

open Relational
open Json (Value)

/-- A message that was appended, as `attempt_decryption` returned it. -/
structure Stored where
  seq : Sequence
  isDecrypted : Bool
  message : SsbMessage

structure MessageFact where
  flumeSeq : Int
  key : String
  seq : UInt32
  receivedTime : Float64
  assertedTime : Float64
  root : Option String
  fork : Option String
  author : String
  contentType : Option String
  content : Cell
  isDecrypted : Bool
  deriving DecidableEq, Repr

structure AboutFact where
  fromKey : String
  toAuthor : Option String
  toKey : Option String
  deriving DecidableEq, Repr

structure Facts where
  keyUses : List String
  authorUses : List String
  blobUses : List String
  messages : List MessageFact
  links : List (String × String)
  mentions : List (String × String)
  blobLinks : List (String × String)
  branches : List (String × String)
  contacts : List (String × String × Bool × Int)
  abouts : List AboutFact

/-- The messages in the order of their seqs, in which `messages_raw` lists them. -/
def Facts.bySeq (facts : Facts) : List MessageFact :=
  facts.messages.insertionSort (OrderedBy MessageFact.flumeSeq)

theorem Facts.bySeq_congr {facts other : Facts} (same : facts.messages = other.messages) : facts.bySeq = other.bySeq := by
  rw [Facts.bySeq, Facts.bySeq, same]

theorem Facts.bySeq_perm (facts : Facts) : facts.bySeq.Perm facts.messages := List.perm_insertionSort _ _

/-- Nothing is recorded yet; the author that is me was interned first. -/
def Facts.created (pubKey : String) : Facts := ⟨[], [pubKey], [], [], [], [], [], [], [], []⟩

namespace Stored

variable {SecretKey : Type} (crates : Crates SecretKey) (stored : Stored)

def key : String := stored.message.key

def author : String := stored.message.value.author

def content : Value := stored.message.value.content

/-- The strings under `link`, at any depth, that start with `pattern`. -/
def targets (pattern : String) : List String := (stored.content.stringsUnder "link").filter (startsWith pattern)

def root : Option String := (stored.content.index "root").asStr

def fork : Option String := (stored.content.index "fork").asStr

def contentType : Option String := (stored.content.index "type").asStr

def branches : List String := (FlumeViewSql.branches stored.content).getD []

def contact : Option String := (stored.content.index "contact").asStr

def about : Option String := (stored.content.index "about").asStr

/-- The author an about message is about. -/
def aboutAuthor : Option String := stored.about.filter fun about => firstByte about = some "@"

/-- The message an about message is about. -/
def aboutKey : Option String := stored.about.filter fun about => firstByte about = some "%"

def messageFact : MessageFact where
  flumeSeq := asI64 stored.seq
  key := stored.key
  seq := stored.message.value.sequence
  receivedTime := realColumn stored.message.timestamp
  assertedTime := realColumn stored.message.value.timestamp
  root := stored.root
  fork := stored.fork
  author := stored.author
  contentType := stored.contentType
  content := crates.contentCell stored.content
  isDecrypted := stored.isDecrypted

def contactFact : Option (String × String × Bool × Int) :=
  stored.contact.map fun contact => (stored.author, contact, stored.isDecrypted, contactState stored.content)

def aboutFact : Option AboutFact :=
  stored.about.map fun _ => ⟨stored.key, stored.aboutAuthor, stored.aboutKey⟩

/-- The keys that storing the message interns, in order. -/
def keyUses : List String :=
  stored.key :: stored.targets "%" ++ stored.targets "@" ++ stored.branches ++ stored.root.toList ++
    stored.fork.toList ++ stored.aboutKey.toList

def authorUses : List String :=
  stored.author :: (stored.contact.toList.flatMap fun contact => [stored.author, contact]) ++
    stored.aboutAuthor.toList

end Stored

/-- Record one message. -/
def Facts.index {SecretKey : Type} (crates : Crates SecretKey) (facts : Facts) (stored : Stored) : Facts where
  keyUses := facts.keyUses ++ stored.keyUses
  authorUses := facts.authorUses ++ stored.authorUses
  blobUses := facts.blobUses ++ stored.targets "&"
  messages := facts.messages ++ [stored.messageFact crates]
  links := facts.links ++ (stored.targets "%").map (stored.key, ·)
  mentions := facts.mentions ++ (stored.targets "@").map (stored.key, ·)
  blobLinks := facts.blobLinks ++ (stored.targets "&").map (stored.key, ·)
  branches := facts.branches ++ stored.branches.map (stored.key, ·)
  contacts := facts.contacts ++ stored.contactFact.toList
  abouts := facts.abouts ++ stored.aboutFact.toList

/-- `messages_raw` takes the message: neither its seq nor its key is there. -/
def Facts.Admits (facts : Facts) (stored : Stored) : Prop :=
  asI64 stored.seq ∉ facts.messages.map MessageFact.flumeSeq ∧ stored.key ∉ facts.messages.map MessageFact.key

instance (facts : Facts) (stored : Stored) : Decidable (facts.Admits stored) :=
  inferInstanceAs (Decidable (_ ∧ _))

/-- What has been recorded when `insert_branches` is called. -/
def Facts.linked (facts : Facts) (stored : Stored) : Facts :=
  { facts with
    keyUses := facts.keyUses ++ stored.key :: stored.targets "%" ++ stored.targets "@"
    blobUses := facts.blobUses ++ stored.targets "&"
    links := facts.links ++ (stored.targets "%").map (stored.key, ·)
    mentions := facts.mentions ++ (stored.targets "@").map (stored.key, ·)
    blobLinks := facts.blobLinks ++ (stored.targets "&").map (stored.key, ·) }

/-- What has been recorded when the row of `messages_raw` is inserted. -/
def Facts.prepared (facts : Facts) (stored : Stored) : Facts :=
  { facts.linked stored with
    keyUses := (facts.linked stored).keyUses ++ stored.branches ++ stored.root.toList ++ stored.fork.toList
    authorUses := facts.authorUses ++ [stored.author]
    branches := facts.branches ++ stored.branches.map (stored.key, ·) }

section
variable {SecretKey : Type} (crates : Crates SecretKey) (facts : Facts) (history : List Stored)

/-- Every list of facts is the old one followed by what each message adds. -/
theorem Facts.foldl_index : history.foldl (Facts.index crates) facts =
    { keyUses := facts.keyUses ++ history.flatMap Stored.keyUses
      authorUses := facts.authorUses ++ history.flatMap Stored.authorUses
      blobUses := facts.blobUses ++ history.flatMap (Stored.targets · "&")
      messages := facts.messages ++ history.map (Stored.messageFact crates)
      links := facts.links ++ history.flatMap fun stored => (stored.targets "%").map (stored.key, ·)
      mentions := facts.mentions ++ history.flatMap fun stored => (stored.targets "@").map (stored.key, ·)
      blobLinks := facts.blobLinks ++ history.flatMap fun stored => (stored.targets "&").map (stored.key, ·)
      branches := facts.branches ++ history.flatMap fun stored => stored.branches.map (stored.key, ·)
      contacts := facts.contacts ++ history.filterMap Stored.contactFact
      abouts := facts.abouts ++ history.filterMap Stored.aboutFact } := by
  induction history generalizing facts with
  | nil => simp
  | cons stored rest ih =>
    rw [List.foldl_cons, ih]
    simp only [Facts.index, List.flatMap_cons, List.map_cons, List.append_assoc, List.singleton_append,
      Facts.mk.injEq, true_and]
    constructor
    · cases found : stored.contactFact <;> simp [found]
    · cases found : stored.aboutFact <;> simp [found]

end

end FlumeViewSql

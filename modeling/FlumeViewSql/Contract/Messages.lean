import FlumeViewSql.Index.History
import FlumeViewSql.Index.Views

/-! The messages view over any history, and what can stop the indexer.

Histories here may hold calls that stop: a refused `append` leaves rows in other tables,
but neither a row of `messages_raw` nor a number that means nothing.
-/

set_option autoImplicit false

namespace FlumeViewSql

open Execution Relational
open Json (Value)

section
variable {SecretKey : Type} (crates : Crates SecretKey) (secretKeys : List SecretKey) (pubKey : String)
  (calls : List Call)

theorem messagesView_exact :
    ((connectionAfter crates secretKeys pubKey calls).db.messagesView.map fun row => some
      (row.flumeSeq, row.key, row.author, row.root, row.fork, row.contentType, row.content, row.isDecrypted)).Perm
      ((appended crates secretKeys pubKey calls).map fun item => (Stored.read crates secretKeys item).map fun stored =>
        (asI64 item.1, stored.key, stored.author, stored.root, stored.fork, stored.contentType,
          crates.contentCell stored.content, stored.isDecrypted)) := by
  obtain ⟨facts, represents, messages⟩ := history_messages crates secretKeys pubKey calls
  have listed := (messagesView_perm represents).map some
  rw [messages] at listed
  have columns := listed.map (Option.map fun fact => (fact.flumeSeq, fact.key, fact.author, fact.root, fact.fork,
    fact.contentType, fact.content, fact.isDecrypted))
  rw [List.map_map, List.map_map, List.map_map] at columns
  apply columns.trans
  apply List.Perm.of_eq
  apply List.map_congr_left
  intro item _
  simp only [Function.comp_apply, Stored.read, Option.map_map]
  rfl

end

/-! ### Log entries -/

/-- A log entry: the JSON of a message of sequence 1 whose timestamps are 0, in ASCII. -/
def document (key author content : String) : Bytes :=
  ["\x7b\"key\":\"", key, "\",\"value\":\x7b\"author\":\"", author, "\",\"sequence\":1,", "\"timestamp\":0,",
    "\"content\":", content, "\x7d,\"timestamp\":0\x7d"].flatMap fun part =>
      part.toList.map fun c => UInt8.ofNat c.toNat

/-- The message of `document key author`, with its content parsed. -/
def documented (key author : String) (content : Value) : SsbMessage := ⟨key, ⟨author, 1, 0, content⟩, 0⟩

/-- `{"type":type}` -/
def typedContent (type : Value) : Value := .object ⟨["type"], by decide⟩ ![type]

def postContent : Value := typedContent (.string "post")

def postText : String := "\x7b\"type\":\"post\"\x7d"

/-- `{"link":link,"type":"post"}` -/
def linkContent (link : String) : Value := .object ⟨["link", "type"], by decide⟩ ![.string link, .string "post"]

def linkText (link : String) : String := "\x7b\"link\":\"" ++ link ++ "\",\"type\":\"post\"\x7d"

/-- Crates that parse the given entries and open no box. -/
def Crates.reading (entries : List (Bytes × SsbMessage)) (toString : Value → String) : Crates Unit where
  messageFromSlice bytes := entries.lookup bytes
  valueFromSlice _ := none
  toString := toString
  decode _ := none
  decrypt _ _ := none
  numberCell
    | .posInt value => .integer value.toNat
    | .negInt value => .integer value.toInt
    | .float bits => .real bits

def postItem : Bytes := document "%a" "@b" postText

def postCrates : Crates Unit := .reading [(postItem, documented "%a" "@b" postContent)] fun _ => postText

/-- A private box for one reader: nonce, one-time key, the header of the reader, and the body. -/
def sealedBytes : Bytes :=
  [0x0D, 0xAC, 0xFA, 0x69, 0xFB, 0x6E, 0x61, 0x48, 0x5F, 0x10, 0xFF, 0x0C, 0xC1, 0x3A, 0xF8, 0x12, 0x53, 0x00, 0xB9,
    0x4A, 0x5C, 0x10, 0xE5, 0x52, 0x62, 0x74, 0x09, 0xDF, 0x47, 0xE8, 0xC6, 0x6B, 0x12, 0x2A, 0x82, 0xA2, 0x65, 0x66,
    0xE1, 0x47, 0x18, 0x02, 0x28, 0xE9, 0x13, 0x08, 0xD5, 0xDF, 0x60, 0xA2, 0x0A, 0x71, 0xC1, 0xB8, 0x9C, 0x2B, 0x37,
    0x71, 0x25, 0x7B, 0xD8, 0x0C, 0x02, 0x78, 0x3E, 0x35, 0xA0, 0x24, 0x1F, 0xA1, 0x20, 0xC4, 0x97, 0x6E, 0xCD, 0x5F,
    0x06, 0xC7, 0x4D, 0x49, 0x1B, 0x69, 0x37, 0xFE, 0x55, 0x16, 0x4F, 0xBC, 0x11, 0x23, 0xC0, 0x3C, 0xC6, 0x19, 0x92,
    0x11, 0x8A, 0x7E, 0x16, 0x80, 0x8F, 0x98, 0x56, 0x56, 0x0D, 0xE1, 0x5E, 0x21, 0xD8, 0x19, 0x62, 0xA5, 0x6A, 0xA5,
    0x1A, 0xC0, 0x61, 0x82, 0xAB, 0x60, 0x2E, 0x75, 0xA1, 0x29]

def sealedBase64 : String :=
  "Daz6aftuYUhfEP8MwTr4ElMAuUpcEOVSYnQJ30foxmsSKoKiZWbhRxgCKOkTCNXfYKIKccG4nCs3cSV72AwCeD41oCQfoSDE" ++
    "l27NXwbHTUkbaTf+VRZPvBEjwDzGGZIRin4WgI+YVlYN4V4h2BlipWqlGsBhgqtgLnWhKQ=="

/-- The content of a message that is this box. -/
def boxText : String := sealedBase64 ++ ".box"

def boxItem : Bytes := document "%d" "@b" ("\"" ++ boxText ++ "\"")

/-- Crates that read the box and the post before. The key `true`, whose seed is 32 bytes of 1, opens the
box and finds the JSON text `1.0`, which SQLite stores as the integer 1; the key `false`, whose seed is
32 bytes of 2, does not open it. -/
def boxCrates : Crates Bool where
  messageFromSlice bytes := [(postItem, documented "%a" "@b" postContent),
    (boxItem, documented "%d" "@b" (.string boxText))].lookup bytes
  valueFromSlice data := if data = [0x31, 0x2E, 0x30] then some (.number (.float 0x3FF0000000000000)) else none
  toString
    | .number _ => "1.0"
    | .string text => "\"" ++ text ++ "\""
    | .null => "null"
    | _ => postText
  decode text := if text = sealedBase64 then some sealedBytes else none
  decrypt bytes secretKey := if bytes = sealedBytes ∧ secretKey = true then some [0x31, 0x2E, 0x30] else none
  numberCell _ := .integer 1

/-- A seq of 2 ^ 63 comes back negative, and a bare number comes back as a number and not as its text. -/
theorem messagesView_signed_and_numeric :
    (appended postCrates [] "@me" [.append 0x8000000000000000 postItem] = [(0x8000000000000000, postItem)] ∧
      (connectionAfter postCrates [] "@me" [.append 0x8000000000000000 postItem]).db.messagesView.map
        MessagesViewRow.flumeSeq = [-0x8000000000000000]) ∧
    (appended boxCrates [true] "@me" [.append 0 boxItem] = [(0, boxItem)] ∧
      (Stored.read boxCrates [true] (0, boxItem)).map (fun stored => boxCrates.toString stored.content) = some "1.0" ∧
      (connectionAfter boxCrates [true] "@me" [.append 0 boxItem]).db.messagesView.map
        (fun row => row.content) = [.integer 1]) := by
  decide +kernel

/-! ### What can stop the indexer -/

def BranchesAreStrings (content : Value) : Prop :=
  ∀ size element, content.get "branch" = some (.array size element) → ∀ position, (element position).isString = true

theorem isSome_asStr (value : Value) : value.asStr.isSome = value.isString := by
  cases value <;> rfl

theorem branches_ne_none_iff {content : Value} : branches content ≠ none ↔ BranchesAreStrings content := by
  rw [← Option.isSome_iff_ne_none, branches, BranchesAreStrings]
  split
  · next size element found =>
    rw [mapM_isSome_iff]
    constructor
    · intro strings size' element' same position
      cases found.symm.trans same
      rw [← isSome_asStr]
      exact strings _ (List.mem_ofFn.mpr ⟨position, rfl⟩)
    · intro strings item member
      obtain ⟨position, rfl⟩ := List.mem_ofFn.mp member
      rw [isSome_asStr]
      exact strings size element found position
  · next branch found => simp [found]
  · next notArray notString =>
    simp only [Option.isSome_some, true_iff]
    intro size element found
    exact absurd found (notArray size element)

def Db.Lacks (db : Db) (seq : Sequence) (key : String) : Prop :=
  asI64 seq ∉ db.messagesRaw.rows.map Prod.fst ∧ key ∉ db.messagesView.map MessagesViewRow.key

instance (db : Db) (seq : Sequence) (key : String) : Decidable (db.Lacks seq key) :=
  inferInstanceAs (Decidable (_ ∧ _))

theorem Represents.lacks_iff {db : Db} {facts : Facts} (represents : Represents db facts) (stored : Stored) :
    db.Lacks stored.seq stored.key ↔ facts.Admits stored := by
  have keys : (db.messagesView.map MessagesViewRow.key).Perm (facts.messages.map MessageFact.key) := by
    have listed := (messagesView_perm represents).map MessageFact.key
    rwa [List.map_map] at listed
  rw [Db.Lacks, Facts.Admits, represents.flumeSeqs_perm.mem_iff, keys.mem_iff]

section
variable {SecretKey : Type} (crates : Crates SecretKey) (secretKeys : List SecretKey) (pubKey : String)
  (calls : List Call)

theorem storeMessage_returns_iff (stored : Stored)
    (fresh : (connectionAfter crates secretKeys pubKey calls).db.Lacks stored.seq stored.key) :
    ((storeMessage crates stored.seq stored.isDecrypted stored.message).run
      (connectionAfter crates secretKeys pubKey calls)).outcome = .ok () ↔ BranchesAreStrings stored.content := by
  obtain ⟨facts, represents, -⟩ := history_messages crates secretKeys pubKey calls
  have admitted : facts.Admits stored := (represents.lacks_iff stored).mp fresh
  rw [← branches_ne_none_iff]
  apply Action.Ends.returns_iff
  apply (storeMessage_ends crates represents stored).mono
  · exact fun _ _ ⟨accepted, _⟩ => accepted.1
  · rintro after (⟨absent, -⟩ | ⟨-, refused, -⟩)
    · exact not_not_intro absent
    · exact absurd admitted refused

end

def branchContent (element : Value) : Value :=
  .object ⟨["branch", "type"], by decide⟩ ![.array 1 ![element], .string "post"]

def branchText (element : String) : String := "\x7b\"branch\":[" ++ element ++ "],\"type\":\"post\"\x7d"

/-- One of the messages the panic of `insert_branches` keeps out for ever. -/
theorem storeMessage_panics :
    (connectionAfter (.reading [] fun _ => branchText "null") [()] "@me" []).db.Lacks 0 "%a" ∧
      ((storeMessage (.reading [] fun _ => branchText "null") 0 false (documented "%a" "@b" (branchContent .null))).run
        (connectionAfter (.reading [] fun _ => branchText "null") [()] "@me" [])).outcome = .error .panic := by
  decide +kernel

theorem storeMessage_returns_branch :
    ((storeMessage (.reading [] fun _ => branchText "\"%c\"") 0 false
        (documented "%a" "@b" (branchContent (.string "%c")))).run
      (connectionAfter (.reading [] fun _ => branchText "\"%c\"") [()] "@me" [])).outcome = .ok () ↔
      BranchesAreStrings (branchContent (.string "%c")) :=
  storeMessage_returns_iff (.reading [] fun _ => branchText "\"%c\"") [()] "@me" []
    ⟨0, false, documented "%a" "@b" (branchContent (.string "%c"))⟩ (by decide +kernel)

end FlumeViewSql

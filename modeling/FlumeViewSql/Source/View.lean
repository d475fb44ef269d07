import FlumeViewSql.Source.Insertion
import Mathlib.Algebra.Ring.Int.Defs
import Mathlib.Algebra.Ring.Nat

/-! The view itself: `append_item`, the two ways to append, and the lookups.

Every message goes through `append_item`. `FlumeView::append` runs it statement by
statement; `append_batch` runs it for all items in one transaction.
-/

set_option autoImplicit false

namespace FlumeViewSql

open Execution Relational
open Json (Value)

/-- A position in the log, a `u64`. -/
abbrev Sequence := UInt64

/-- Rust's `seq as i64`. -/
def asI64 (seq : Sequence) : Int := seq.toBitVec.toInt

/-- Rust's `res as Sequence`. -/
def asSequence (res : Int) : Sequence := UInt64.ofInt res

variable {SecretKey : Type} (crates : Crates SecretKey) (secretKeys : List SecretKey)

/-- The part of `append_item` after decryption. -/
def storeMessage (seq : Sequence) (isDecrypted : Bool) (message : SsbMessage) : Sql Db Unit := do
  let messageKeyId ← (findOrCreateKey message.key).unwrap
  let links := findValuesInObjectByKey "link" message.value.content []
  insertLinks links messageKeyId
  insertMentions links messageKeyId
  insertBlobLinks links messageKeyId
  insertBranches message messageKeyId
  insertMessage crates message (asI64 seq) messageKeyId isDecrypted
  insertOrUpdateContacts message messageKeyId isDecrypted
  insertAbouts message messageKeyId

/-- The message that an item holds, and whether it was decrypted; `none` is a panic. -/
def readItem (item : Bytes) : Option (Bool × SsbMessage) := do
  let message ← crates.messageFromSlice item
  attemptDecryption crates message secretKeys

def appendItem (seq : Sequence) (item : Bytes) : Sql Db Unit := do
  let (isDecrypted, message) ← Action.unwrapOption (readItem crates secretKeys item)
  storeMessage crates seq isDecrypted message

/-- `FlumeView::append`. -/
def append (seq : Sequence) (item : Bytes) : Sql Db Unit := (appendItem crates secretKeys seq item).unwrap

def appendBatch (items : List (Sequence × Bytes)) : Sql Db Unit :=
  Sql.transaction (Action.forEach items fun item => (appendItem crates secretKeys item.1 item.2).unwrap)

/-- `SELECT MAX(flume_seq) FROM messages_raw`; the `NULL` of an empty table reads as 0. -/
def getLatest (db : Db) : Sequence := asSequence (db.messagesRaw.lastRowid.getD 0)

def getSeqsByKey (db : Db) (key : String) : List Int :=
  db.messagesRaw.rows.flatMap fun (flumeSeq, message) =>
    ((db.keys.join message.keyId).filter fun row => row.key = key).map fun _ => flumeSeq

/-- `get_seq_by_key` takes the first row of the query, or fails. -/
def getSeqByKey (db : Db) (key : String) : Except SqlError Int :=
  match getSeqsByKey db key with
  | flumeSeq :: _ => .ok flumeSeq
  | [] => .error .queryReturnedNoRows

def getSeqsByType (db : Db) (contentType : String) : List Int :=
  (db.messagesRaw.rows.filter fun row => row.2.contentType = some contentType).map Prod.fst

def getSeqsByAuthor (db : Db) (author : String) : List Int :=
  db.messagesRaw.rows.flatMap fun (flumeSeq, message) =>
    ((db.authors.join message.authorId).filter fun row => row.author = author).map fun _ => flumeSeq

theorem asI64_injective : Function.Injective asI64 := by
  intro first second same
  exact UInt64.toBitVec_inj.mp (BitVec.toInt_inj.mp same)

theorem asI64_of_lt {seq : Sequence} (bound : seq.toNat < 2 ^ 63) : asI64 seq = seq.toNat := by
  rw [asI64, BitVec.toInt_eq_toNat_of_lt (by simpa using (by omega : 2 * seq.toNat < 2 ^ 64))]
  rfl

theorem asI64_lt (seq : Sequence) : asI64 seq < 2 ^ 63 := by
  have bound := BitVec.toInt_lt (x := seq.toBitVec)
  simpa [asI64] using bound

theorem asI64_nonneg_iff {seq : Sequence} : 0 ≤ asI64 seq ↔ seq.toNat < 2 ^ 63 := by
  have bound := seq.toNat_lt
  rw [asI64, BitVec.toInt_eq_toNat_cond, UInt64.toNat_toBitVec]
  split <;> omega

theorem asSequence_asI64 (seq : Sequence) : asSequence (asI64 seq) = seq := by
  have bound := seq.toNat_lt
  apply UInt64.toNat_inj.mp
  rw [asSequence, UInt64.ofInt, UInt64.toNat_ofNat', asI64, BitVec.toInt_eq_toNat_cond, UInt64.toNat_toBitVec]
  split <;> omega

end FlumeViewSql

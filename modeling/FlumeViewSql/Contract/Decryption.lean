import FlumeViewSql.Contract.Messages

/-! `attempt_decryption`: which messages it returns, and what the secret keys decide.

A content without a type is taken for a box, whatever it is; only the comment in its loop
says what becomes of a box that stays closed.
-/

set_option autoImplicit false

namespace FlumeViewSql

open Execution Relational
open Json (Value)

variable {SecretKey : Type} (crates : Crates SecretKey)

/-- The bytes of a box: what a string decodes to without its `.box`. -/
def Crates.boxBytes (content : Value) : Option Bytes :=
  content.asStr.bind fun text => crates.decode (trimEndMatches ".box" text)

section
variable {crates}

theorem attemptDecryption_typed {message : SsbMessage} (typed : message.value.content.index "type" ≠ .null)
    (secretKeys : List SecretKey) : attemptDecryption crates message secretKeys = some (false, message) := by
  unfold attemptDecryption
  split
  · next untyped => exact absurd untyped typed
  · rfl

theorem attemptDecryption_untyped {message : SsbMessage} (untyped : message.value.content.index "type" = .null)
    (secretKeys : List SecretKey) : attemptDecryption crates message secretKeys =
      (crates.boxBytes message.value.content).map fun bytes =>
        ((decryptContent crates bytes secretKeys message.value.content).1,
          { message with value := { message.value with
            content := (decryptContent crates bytes secretKeys message.value.content).2 } }) := by
  simp only [attemptDecryption, untyped, Crates.boxBytes]
  cases message.value.content.asStr with
  | none => rfl
  | some text =>
    rw [Option.bind_some]
    cases found : crates.decode (trimEndMatches ".box" text) with
    | none => simp [found]
    | some bytes => simp [found]

end

/-! ### Messages that stop it -/

theorem attemptDecryption_returns_iff (message : SsbMessage) (secretKeys : List SecretKey) :
    (∃ result, attemptDecryption crates message secretKeys = some result) ↔
      message.value.content.index "type" ≠ .null ∨ ∃ bytes, crates.boxBytes message.value.content = some bytes := by
  by_cases untyped : message.value.content.index "type" = .null
  · rw [attemptDecryption_untyped untyped]
    cases crates.boxBytes message.value.content <;> simp [untyped]
  · rw [attemptDecryption_typed untyped]
    simp [untyped]

def untypedContent : Value := .object ⟨["text"], by decide⟩ ![.string "hi"]

def untypedItem : Bytes := document "%a" "@b" "\x7b\"text\":\"hi\"\x7d"

def untypedCrates : Crates Unit := .reading [(untypedItem, documented "%a" "@b" untypedContent)] fun _ => ""

/-- A content without a type and a string that is not base64 both stop it, and with it the indexer. -/
theorem attemptDecryption_panics :
    attemptDecryption untypedCrates (documented "%a" "@b" untypedContent) [()] = none ∧
    attemptDecryption untypedCrates (documented "%a" "@b" (.string "hi")) [()] = none ∧
    ((append untypedCrates [()] 0 untypedItem).run ⟨.created "@me", 1⟩).outcome = .error .panic := by
  refine ⟨rfl, rfl, ?_⟩
  decide +kernel

/-! ### The keys that open a box -/

def Crates.opens (bytes : Bytes) (secretKey : SecretKey) : Bool := (crates.decrypt bytes secretKey).isSome

/-- The JSON that a key finds in a box; `Null` when it is none. -/
def Crates.plaintext (bytes : Bytes) (secretKey : SecretKey) : Value :=
  ((crates.decrypt bytes secretKey).bind crates.valueFromSlice).getD .null

/-- The loop ends at the first key that opens the box, or has thrown the content away. -/
theorem decryptContent_eq (bytes : Bytes) (secretKeys : List SecretKey) (content : Value) :
    decryptContent crates bytes secretKeys content =
      ((secretKeys.find? (crates.opens bytes)).isSome,
        ((secretKeys.find? (crates.opens bytes)).map (crates.plaintext bytes)).getD
          (if secretKeys = [] then content else .null)) := by
  induction secretKeys generalizing content with
  | nil => simp [decryptContent]
  | cons secretKey rest ih =>
    cases opened : crates.decrypt bytes secretKey with
    | some data =>
      have opens : crates.opens bytes secretKey = true := by simp [Crates.opens, opened]
      simp [decryptContent, opened, opens, Crates.plaintext]
    | none =>
      have closed : crates.opens bytes secretKey = false := by simp [Crates.opens, opened]
      simp [decryptContent, opened, closed, ih]

section
variable {crates} {message : SsbMessage} {bytes : Bytes} (box : crates.boxBytes message.value.content = some bytes)
include box

theorem boxBytes_untyped : message.value.content.index "type" = .null := by
  cases content : message.value.content with
  | string text => rfl
  | _ => simp [content, Crates.boxBytes, Value.asStr] at box

theorem attemptDecryption_box (secretKeys : List SecretKey) :
    attemptDecryption crates message secretKeys =
      some ((secretKeys.find? (crates.opens bytes)).isSome, { message with value := { message.value with
        content := ((secretKeys.find? (crates.opens bytes)).map (crates.plaintext bytes)).getD
          (if secretKeys = [] then message.value.content else .null) } }) := by
  rw [attemptDecryption_untyped (boxBytes_untyped box), box, Option.map_some, decryptContent_eq]

theorem attemptDecryption_alike {secretKeys others : List SecretKey}
    (same : secretKeys.filter (crates.opens bytes) = others.filter (crates.opens bytes)) :
    attemptDecryption crates message secretKeys = attemptDecryption crates message others ↔
      (∃ secretKey ∈ secretKeys, crates.opens bytes secretKey = true) ∨ (secretKeys = [] ↔ others = []) := by
  have first : others.find? (crates.opens bytes) = secretKeys.find? (crates.opens bytes) := by
    rw [← List.head?_filter, ← List.head?_filter, same]
  have kept : message.value.content ≠ .null := by
    intro thrown
    simp [Crates.boxBytes, thrown, Value.asStr] at box
  rw [attemptDecryption_box box, attemptDecryption_box box, first]
  cases found : secretKeys.find? (crates.opens bytes) with
  | some secretKey =>
    have opened : ∃ secretKey ∈ secretKeys, crates.opens bytes secretKey = true :=
      ⟨secretKey, List.mem_of_find?_eq_some found, List.find?_some found⟩
    simp [opened]
  | none =>
    have closed : ¬ ∃ secretKey ∈ secretKeys, crates.opens bytes secretKey = true := by
      rintro ⟨secretKey, member, opens⟩
      exact List.find?_eq_none.mp found secretKey member opens
    by_cases empty : secretKeys = [] <;> by_cases empty' : others = [] <;>
      simp [closed, empty, empty', kept, Ne.symm kept]

end

structure DecryptsByOpeners (message : SsbMessage) (secretKeys others : List SecretKey) : Prop where
  /-- The other list differs by keys that do not open the box. -/
  alike : ∀ bytes, crates.boxBytes message.value.content = some bytes →
    secretKeys.filter (crates.opens bytes) = others.filter (crates.opens bytes) →
      attemptDecryption crates message secretKeys = attemptDecryption crates message others
  /-- Only the content changes, to what the first key that opens the box finds in it. -/
  opened : ∀ bytes, crates.boxBytes message.value.content = some bytes → ∃ isDecrypted content,
    attemptDecryption crates message secretKeys =
        some (isDecrypted, { message with value := { message.value with content } }) ∧
      (isDecrypted = true ↔ ∃ secretKey ∈ secretKeys, crates.opens bytes secretKey = true) ∧
      ∀ secretKey, secretKeys.find? (crates.opens bytes) = some secretKey →
        content = crates.plaintext bytes secretKey
  typed : message.value.content.index "type" ≠ .null →
    attemptDecryption crates message secretKeys = some (false, message)

theorem decrypts_by_openers_iff (message : SsbMessage) (secretKeys others : List SecretKey) :
    DecryptsByOpeners crates message secretKeys others ↔
      ∀ bytes, crates.boxBytes message.value.content = some bytes →
        secretKeys.filter (crates.opens bytes) = others.filter (crates.opens bytes) →
          (∃ secretKey ∈ secretKeys, crates.opens bytes secretKey = true) ∨ (secretKeys = [] ↔ others = []) := by
  constructor
  · intro decrypts bytes box same
    exact (attemptDecryption_alike box same).mp (decrypts.alike bytes box same)
  · intro condition
    refine ⟨fun bytes box same => ?_, fun bytes box => ?_, fun typed => attemptDecryption_typed typed secretKeys⟩
    · exact (attemptDecryption_alike box same).mpr (condition bytes box same)
    · refine ⟨_, _, attemptDecryption_box box secretKeys, List.find?_isSome, fun secretKey found => ?_⟩
      rw [found]
      rfl

/-- A box that stays closed is kept when there is no key at all, and thrown away when there is one. -/
theorem attemptDecryption_without_keys :
    boxCrates.boxBytes (.string boxText) = some sealedBytes ∧
    ([] : List Bool).filter (boxCrates.opens sealedBytes) = [false].filter (boxCrates.opens sealedBytes) ∧
    (attemptDecryption boxCrates (documented "%d" "@b" (.string boxText)) []).map
        (fun decrypted => decrypted.2.value.content.asStr) = some (some boxText) ∧
    (attemptDecryption boxCrates (documented "%d" "@b" (.string boxText)) [false]).map
        (fun decrypted => decrypted.2.value.content.asStr) = some none := by
  decide +kernel

end FlumeViewSql

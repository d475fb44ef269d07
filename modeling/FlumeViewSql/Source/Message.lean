import FlumeViewSql.Json.Value
import FlumeViewSql.Source.Schema

/-! SSB messages and `attempt_decryption`.

The crates that the view calls are a parameter: nothing is assumed of the parser, of
base64 or of private-box beyond what their types say.
-/

set_option autoImplicit false

namespace FlumeViewSql

open Json (Value Number)

abbrev Bytes := List UInt8

structure SsbValue where
  author : String
  sequence : UInt32
  timestamp : Float64
  content : Value

structure SsbMessage where
  key : String
  value : SsbValue
  timestamp : Float64

/-- The foreign functions: serde_json's two uses of `from_slice` and its `to_string`,
base64's `decode`, private-box's `decrypt`, and what SQLite stores for a number
literal in a column of declared type `JSON`, whose affinity is `NUMERIC`. -/
structure Crates (SecretKey : Type) where
  messageFromSlice : Bytes → Option SsbMessage
  valueFromSlice : Bytes → Option Value
  toString : Value → String
  decode : String → Option Bytes
  decrypt : Bytes → SecretKey → Option Bytes
  numberCell : Number → Cell

variable {SecretKey : Type}

/-- The `content` column: the JSON text, which is a number literal only for a bare number. -/
def Crates.contentCell (crates : Crates SecretKey) : Value → Cell
  | .number number => crates.numberCell number
  | content => .text (crates.toString content)

/-- Remove `pattern` from the front of `text` as often as it stands there. -/
def trimStartMatches (pattern : List Char) : Nat → List Char → List Char
  | 0, text => text
  | fuel + 1, text =>
    if pattern.isPrefixOf text then trimStartMatches pattern fuel (text.drop pattern.length) else text

/-- `text.trim_end_matches(suffix)`: every repetition at the end goes. -/
def trimEndMatches (suffix text : String) : String :=
  .ofList (trimStartMatches suffix.toList.reverse text.toList.length text.toList.reverse).reverse

/-- The loop over the secret keys, with the content the message has so far. A failed key
leaves `Null`; the first key that opens the box ends the loop, parsed or not. -/
def decryptContent (crates : Crates SecretKey) (bytes : Bytes) : List SecretKey → Value → Bool × Value
  | [], content => (false, content)
  | secretKey :: rest, _ =>
    match crates.decrypt bytes secretKey with
    | some data => (true, (crates.valueFromSlice data).getD .null)
    | none => decryptContent crates bytes rest .null

/-- `attempt_decryption`; `none` is a panic of one of its two `unwrap`s. -/
def attemptDecryption (crates : Crates SecretKey) (message : SsbMessage) (secretKeys : List SecretKey) :
    Option (Bool × SsbMessage) :=
  match message.value.content.index "type" with
  | .null => do
    let text ← message.value.content.asStr
    let bytes ← crates.decode (trimEndMatches ".box" text)
    -- With no secret key at all the content stays the box.
    let (isDecrypted, content) := decryptContent crates bytes secretKeys message.value.content
    some (isDecrypted, { message with value := { message.value with content } })
  | _ => some (false, message)

example : trimEndMatches ".box" "aa.box.box" = "aa" := by decide

end FlumeViewSql

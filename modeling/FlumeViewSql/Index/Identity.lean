import FlumeViewSql.Execution.Ledger
import FlumeViewSql.Index.History

/-! The uses of keys, authors and blobs that a history makes.

Each of the three `find_or_create` functions looks its text up in a table of its own and
returns an id there. What is known in a state are the rows of the three tables. The other
statements of the source write none of them.
-/

set_option autoImplicit false

namespace FlumeViewSql

open Execution Relational

/-- What an id can be the id of. -/
inductive Kind where
  | key
  | author
  | blob
  deriving DecidableEq, Repr

def Kind.Row : Kind → Type
  | .key => KeyRow
  | .author => AuthorRow
  | .blob => BlobRow

def Kind.text : (kind : Kind) → kind.Row → String
  | .key => KeyRow.key
  | .author => AuthorRow.author
  | .blob => BlobRow.blob

def Kind.table : (kind : Kind) → DictionaryIn Db kind.Row String kind.text
  | .key => keysTable
  | .author => authorsTable
  | .blob => blobsTable

/-- The dictionary of a kind. -/
abbrev Kind.read (kind : Kind) (db : Db) : Dictionary kind.Row String kind.text := kind.table.read db

/-- A call of `find_or_create_key`, `find_or_create_author` or `find_or_create_blob`. -/
structure Use where
  kind : Kind
  text : String
  deriving DecidableEq, Repr

def Use.call (use : Use) : Sql Db Int := findOrCreate use.kind.table .allRun use.text

/-- The table of the kind has the text under this id. -/
def Use.Has (connection : Connection Db) (use : Use) (id : Int) : Prop :=
  (use.kind.read connection.db).Maps id use.text

instance (connection : Connection Db) (use : Use) (id : Int) : Decidable (Use.Has connection use id) :=
  decidable_of_iff _ Dictionary.find_eq_some

theorem Kind.read_write_of_ne {kind other : Kind} (distinct : other ≠ kind) (db : Db)
    (after : Dictionary kind.Row String kind.text) : other.read (kind.table.write db after) = other.read db := by
  cases kind <;> cases other <;> first | rfl | exact absurd rfl distinct

theorem Use.call_called (use : Use) (connection : Connection Db) :
    ∃ id after, use.call.run connection = ⟨.ok id, after⟩ ∧ ∀ other id',
      Has after other id' ↔ Has connection other id' ∨ (other, id') = (use, id) := by
  obtain ⟨id, after, last, ended, interns⟩ := findOrCreate_interns use.kind.table use.text connection
  refine ⟨id, _, ended, fun other id' => ?_⟩
  obtain ⟨kind, text⟩ := use
  obtain ⟨kind', text'⟩ := other
  by_cases same : kind' = kind
  · subst same
    simpa [Has, Kind.read, kind'.table.read_write] using interns.maps_iff kind'.table.names
  · simp [Has, Kind.read_write_of_ne same, same]

/-- Interning over a connection; a rollback brings the rows of the database before back. -/
def interning : Ledger SqlError (Connection Db) Use Int where
  call := Use.call
  restore before after := ⟨before.db, after.lastInsertRowid⟩
  Known := Use.Has
  called := Use.call_called
  restored _ _ _ _ := Iff.rfl

/-- The table is none of the three. -/
def Apart {ρ κ : Type} {unique : ρ → Option κ} (table : TableIn Db ρ κ unique) : Prop :=
  ∀ db after (kind : Kind), kind.read (table.write db after) = kind.read db

theorem messagesRaw_apart : Apart messagesRaw := fun _ _ kind => by cases kind <;> rfl

theorem linksRaw_apart : Apart linksRaw := fun _ _ kind => by cases kind <;> rfl

theorem mentionsRaw_apart : Apart mentionsRaw := fun _ _ kind => by cases kind <;> rfl

theorem blobLinksRaw_apart : Apart blobLinksRaw := fun _ _ kind => by cases kind <;> rfl

theorem branchesRaw_apart : Apart branchesRaw := fun _ _ kind => by cases kind <;> rfl

theorem contactsRaw_apart : Apart contactsRaw := fun _ _ kind => by cases kind <;> rfl

theorem aboutsRaw_apart : Apart aboutsRaw := fun _ _ kind => by cases kind <;> rfl

/-- A statement on another table looks nothing up. -/
theorem Apart.traced {ρ κ : Type} {unique : ρ → Option κ} {table : TableIn Db ρ κ unique} (apart : Apart table)
    (changed : Table ρ κ unique → Option (Int × Table ρ κ unique)) : interning.Traced (Sql.change table changed) := by
  apply Ledger.Traced.silent
  intro connection use id
  cases done : changed (table.read connection.db) with
  | none => rw [Sql.run_change_none done]
  | some result =>
    have same := apart connection.db result.2 use.kind
    rw [Sql.run_change_some done]
    simp only [interning, Use.Has, same]

theorem traced_compositional : Compositional interning.Traced where
  pure := .pure
  stop := .stop
  bind := .bind
  unwrap := .unwrap
  transaction := .transaction
  key key := .call (Use.mk .key key)
  author author := .call (Use.mk .author author)
  blob blob := .call (Use.mk .blob blob)
  message _ _ := messagesRaw_apart.traced _
  link _ := linksRaw_apart.traced _
  mention _ := mentionsRaw_apart.traced _
  blobLink _ := blobLinksRaw_apart.traced _
  branch _ := branchesRaw_apart.traced _
  contact _ := contactsRaw_apart.traced _
  about _ := aboutsRaw_apart.traced _

section
variable {SecretKey : Type} (crates : Crates SecretKey) (secretKeys : List SecretKey)

theorem Call.traced (call : Call) : interning.Traced (call.perform crates secretKeys) := by
  cases call with
  | append seq item => exact traced_compositional.append crates secretKeys seq item
  | appendBatch items => exact traced_compositional.appendBatch crates secretKeys items

/-- The history on a fresh view makes these uses; those of a batch that was rolled back are not part. -/
def Uses (pubKey : String) (calls : List Call) (log : List (Use × Int)) : Prop :=
  interning.TracesAll (Call.perform crates secretKeys) calls (created pubKey) log

end

end FlumeViewSql

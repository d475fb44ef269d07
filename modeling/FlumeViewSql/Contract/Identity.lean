import FlumeViewSql.Contract.Messages
import FlumeViewSql.Index.Identity

/-! What the ids of keys, authors and blobs are worth over a history.

The three tables number their rows apart from one another, so an id is that of a text only
together with the table it belongs to.
-/

set_option autoImplicit false

namespace FlumeViewSql

open Execution Relational

section
variable {SecretKey : Type} (crates : Crates SecretKey) (secretKeys : List SecretKey) (pubKey : String)
  (calls : List Call)

/-- After the history, ids and texts determine each other, later calls leave the rows that are
there, and two uses of one table agree on the id exactly when they agree on the text. -/
structure IdsAgree : Prop where
  oneToOne : ∀ kind : Kind, Relator.BiUnique (kind.read (connectionAfter crates secretKeys pubKey calls).db).Maps
  kept : ∀ (more : List Call) (kind : Kind), (kind.read (connectionAfter crates secretKeys pubKey calls).db).rows <+:
    (kind.read (connectionAfter crates secretKeys pubKey (calls ++ more)).db).rows
  stable : ∀ (more : List Call) (use : Use) (id : Int),
    Use.Has (connectionAfter crates secretKeys pubKey calls) use id →
      Use.Has (connectionAfter crates secretKeys pubKey (calls ++ more)) use id
  used : ∃ log, Uses crates secretKeys pubKey calls log
  /-- The uses are all that has filled the tables. -/
  filled : ∀ log, Uses crates secretKeys pubKey calls log → ∀ (use : Use) (id : Int),
    Use.Has (connectionAfter crates secretKeys pubKey calls) use id ↔
      Use.Has (created pubKey) use id ∨ (use, id) ∈ log
  agree : ∀ log, Uses crates secretKeys pubKey calls log → ∀ first ∈ log, ∀ second ∈ log,
    first.1.kind = second.1.kind → (first.2 = second.2 ↔ first.1.text = second.1.text)

end

/-- The use returns the id of a text that is there and changes no table, and of a new text it adds
the one row to its own table alone. -/
structure Use.Settles (use : Use) (connection : Connection Db) : Prop where
  found : ∀ id, Use.Has connection use id →
    (use.call.run connection).outcome = .ok id ∧ (use.call.run connection).state.db = connection.db
  created : (∀ id, ¬ Use.Has connection use id) → ∃ id after, (use.call.run connection).outcome = .ok id ∧
    (use.call.run connection).state.db = use.kind.table.write connection.db after ∧
    after.rows = (use.kind.read connection.db).rows ++ [(id, use.kind.table.blank use.text)]

theorem Kind.rows_growing {before after : Db} (grows : before.Grows after) (kind : Kind) :
    (kind.read before).rows <+: (kind.read after).rows := by
  cases kind with
  | key => exact grows.keys
  | author => exact grows.authors
  | blob => exact grows.blobs

theorem Use.settles (use : Use) (connection : Connection Db) : use.Settles connection := by
  obtain ⟨id, after, last, ended, interns⟩ := findOrCreate_interns use.kind.table use.text connection
  have run : use.call.run connection = ⟨.ok id, ⟨use.kind.table.write connection.db after, last⟩⟩ := ended
  constructor
  · intro id' has
    rw [run]
    cases interns with
    | found maps => exact ⟨congrArg Except.ok (maps.injective has), use.kind.table.write_read connection.db⟩
    | created absent => exact absurd has (absent id')
  · intro absent
    rw [run]
    cases interns with
    | found maps => exact absurd maps (absent id)
    | created _ rows => exact ⟨_, after, rfl, rfl, rows⟩

section
variable {SecretKey : Type} (crates : Crates SecretKey) (secretKeys : List SecretKey) (pubKey : String)
  (calls : List Call)

theorem idsAgree : IdsAgree crates secretKeys pubKey calls where
  oneToOne _ := Dictionary.maps_biUnique
  kept more kind := kind.rows_growing (history_grows crates secretKeys pubKey calls more)
  stable more use _ has := has.mono (use.kind.rows_growing (history_grows crates secretKeys pubKey calls more))
  used := Ledger.exists_tracesAll (Call.traced crates secretKeys) calls (created pubKey)
  filled _ uses := Ledger.TracesAll.known_iff uses
  agree := by
    intro log uses (⟨kind, text⟩, id) early (⟨kind', text'⟩, id') late same
    -- Both ids are still those of their texts behind the history, in the one table.
    have has := (Ledger.TracesAll.known_iff uses _ _).mpr (.inr early)
    have has' := (Ledger.TracesAll.known_iff uses _ _).mpr (.inr late)
    cases same
    constructor
    · rintro rfl
      exact has.functional has'
    · rintro rfl
      exact has.injective has'

theorem ids_stable : IdsAgree crates secretKeys pubKey calls ∧
    ∀ (use : Use) (connection : Connection Db), use.Settles connection :=
  ⟨idsAgree crates secretKeys pubKey calls, Use.settles⟩

end

def identityItem : Bytes := document "%a" "@b" (linkText "%c")

def identityCrates : Crates Unit :=
  .reading [(identityItem, documented "%a" "@b" (linkContent "%c"))] fun _ => linkText "%c"

/-- One message makes key number 2 and author number 2. -/
theorem identity_coincides : ∃ log, Uses identityCrates [] "@me" [.append 0 identityItem] log ∧
    ¬ ∀ first ∈ log, ∀ second ∈ log, first.2 = second.2 ↔ first.1 = second.1 := by
  have ids := idsAgree identityCrates [] "@me" [.append 0 identityItem]
  obtain ⟨log, uses⟩ := ids.used
  have named := ids.filled log uses
  have key : ((⟨.key, "%c"⟩, 2) : Use × Int) ∈ log := ((named _ 2).mp (by decide +kernel)).resolve_left (by decide)
  have author : ((⟨.author, "@b"⟩, 2) : Use × Int) ∈ log :=
    ((named _ 2).mp (by decide +kernel)).resolve_left (by decide)
  refine ⟨log, uses, fun same => ?_⟩
  cases (same _ key _ author).mp rfl

end FlumeViewSql

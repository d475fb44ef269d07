import FlumeViewSql.Index.Composition

/-! What every function of the view does, whatever it is given and however it ends.

It adds rows to the ten tables and takes none away or changes one, and what it does depends
on the database alone, not on the rowid of an earlier insert.
-/

set_option autoImplicit false

namespace FlumeViewSql

open Execution Relational

/-- Every table of `after` is that of `before` with further rows behind; those of `messages_raw`
come where their seqs belong. -/
structure Db.Grows (before after : Db) : Prop where
  keys : before.keys.rows <+: after.keys.rows
  authors : before.authors.rows <+: after.authors.rows
  blobs : before.blobs.rows <+: after.blobs.rows
  messagesRaw : before.messagesRaw.rows.Sublist after.messagesRaw.rows
  linksRaw : before.linksRaw.rows <+: after.linksRaw.rows
  mentionsRaw : before.mentionsRaw.rows <+: after.mentionsRaw.rows
  blobLinksRaw : before.blobLinksRaw.rows <+: after.blobLinksRaw.rows
  branchesRaw : before.branchesRaw.rows <+: after.branchesRaw.rows
  contactsRaw : before.contactsRaw.rows <+: after.contactsRaw.rows
  aboutsRaw : before.aboutsRaw.rows <+: after.aboutsRaw.rows

theorem Db.Grows.refl (db : Db) : db.Grows db :=
  ⟨List.prefix_rfl, List.prefix_rfl, List.prefix_rfl, .refl _, List.prefix_rfl, List.prefix_rfl,
    List.prefix_rfl, List.prefix_rfl, List.prefix_rfl, List.prefix_rfl⟩

theorem Db.Grows.trans {first second third : Db} (early : first.Grows second) (late : second.Grows third) :
    first.Grows third where
  keys := early.keys.trans late.keys
  authors := early.authors.trans late.authors
  blobs := early.blobs.trans late.blobs
  messagesRaw := early.messagesRaw.trans late.messagesRaw
  linksRaw := early.linksRaw.trans late.linksRaw
  mentionsRaw := early.mentionsRaw.trans late.mentionsRaw
  blobLinksRaw := early.blobLinksRaw.trans late.blobLinksRaw
  branchesRaw := early.branchesRaw.trans late.branchesRaw
  contactsRaw := early.contactsRaw.trans late.contactsRaw
  aboutsRaw := early.aboutsRaw.trans late.aboutsRaw

/-- Its messages too came behind the others. -/
structure Db.Begins (before after : Db) : Prop extends before.Grows after where
  messages : before.messagesRaw.rows <+: after.messagesRaw.rows

def Grown (before after : Connection Db) : Prop := before.db.Grows after.db

instance : IsPreorder (Connection Db) Grown where
  refl connection := .refl connection.db
  trans _ _ _ early late := early.trans late

/-- A write that adds rows behind those of one table makes the database grow. -/
def WritesGrow {ρ κ : Type} {unique : ρ → Option κ} (table : TableIn Db ρ κ unique) : Prop :=
  ∀ db after, (table.read db).rows <+: after.rows → db.Grows (table.write db after)

theorem keysTable_grow : WritesGrow keysTable.toTableIn := fun db _ grown => { Db.Grows.refl db with keys := grown }

theorem authorsTable_grow : WritesGrow authorsTable.toTableIn :=
  fun db _ grown => { Db.Grows.refl db with authors := grown }

theorem blobsTable_grow : WritesGrow blobsTable.toTableIn := fun db _ grown => { Db.Grows.refl db with blobs := grown }

theorem linksRaw_grow : WritesGrow linksRaw := fun db _ grown => { Db.Grows.refl db with linksRaw := grown }

theorem mentionsRaw_grow : WritesGrow mentionsRaw := fun db _ grown => { Db.Grows.refl db with mentionsRaw := grown }

theorem blobLinksRaw_grow : WritesGrow blobLinksRaw :=
  fun db _ grown => { Db.Grows.refl db with blobLinksRaw := grown }

theorem branchesRaw_grow : WritesGrow branchesRaw := fun db _ grown => { Db.Grows.refl db with branchesRaw := grown }

theorem contactsRaw_grow : WritesGrow contactsRaw := fun db _ grown => { Db.Grows.refl db with contactsRaw := grown }

theorem aboutsRaw_grow : WritesGrow aboutsRaw := fun db _ grown => { Db.Grows.refl db with aboutsRaw := grown }

/-- The action only adds rows, and reads nothing but the database. -/
structure Adds {α : Type} (action : Sql Db α) : Prop where
  grows : Action.Within Grown action
  respects : Action.Respects Sql.SameDb action

namespace Adds

variable {α β : Type}

theorem pure (a : α) : Adds (pure a : Sql Db α) := ⟨.pure a, .pure a⟩

theorem stop (why : Stop SqlError) : Adds (Action.stop why : Sql Db α) := ⟨.stop why, .stop why⟩

theorem bind {action : Sql Db α} {next : α → Sql Db β} (first : Adds action) (rest : ∀ a, Adds (next a)) :
    Adds (action >>= next) :=
  ⟨first.grows.bind fun a => (rest a).grows, first.respects.bind fun a => (rest a).respects⟩

theorem unwrap {action : Sql Db α} (adds : Adds action) : Adds action.unwrap :=
  ⟨adds.grows.unwrap, adds.respects.unwrap⟩

theorem transaction {body : Sql Db α} (adds : Adds body) : Adds (Sql.transaction body) :=
  ⟨adds.grows.transaction fun connection _ => .refl connection.db, Sql.transaction_respects adds.respects⟩

section
variable {ρ κ : Type} {unique : ρ → Option κ} {table : TableIn Db ρ κ unique}

theorem change {changed : Table ρ κ unique → Option (Int × Table ρ κ unique)}
    (grow : ∀ db rowid after, changed (table.read db) = some (rowid, after) → db.Grows (table.write db after)) :
    Adds (Sql.change table changed) := by
  refine ⟨fun connection => ?_, Sql.change_respects table changed⟩
  cases done : changed (table.read connection.db) with
  | none =>
    rw [Sql.run_change_none done]
    exact .refl connection.db
  | some result =>
    obtain ⟨rowid, after⟩ := result
    rw [Sql.run_change_some done]
    exact grow connection.db rowid after done

theorem insertInto [DecidableEq κ] (grow : WritesGrow table) (row : ρ) : Adds (Sql.insertInto table row) := by
  apply change
  intro db rowid after done
  simp only [Table.insert, Option.map_eq_some_iff, Prod.mk.injEq] at done
  obtain ⟨inserted, found, -, rfl⟩ := done
  have rows := (Table.insertAt_eq_some.mp found).2
  rw [Table.orderedInsert_newRowid] at rows
  exact grow db inserted ⟨_, rows.symm⟩

theorem insertMessage (seq : Int) (row : MessageRow) : Adds (Sql.insertAt messagesRaw seq row) := by
  apply change
  intro db rowid after done
  simp only [Option.map_eq_some_iff, Prod.mk.injEq] at done
  obtain ⟨inserted, found, -, rfl⟩ := done
  have rows := (Table.insertAt_eq_some.mp found).2
  have grown : db.messagesRaw.rows.Sublist inserted.rows := rows ▸ List.sublist_orderedInsert _ _
  exact { Db.Grows.refl db with messagesRaw := grown }

end

theorem findOrCreate {ρ : Type} {text : ρ → String} {table : DictionaryIn Db ρ String text}
    (grow : WritesGrow table.toTableIn) (key : String) : Adds (FlumeViewSql.findOrCreate table .allRun key) := by
  refine ⟨fun connection => ?_, findOrCreate_respects table key⟩
  obtain ⟨rowid, after, last, ended, interns⟩ := findOrCreate_interns table key connection
  rw [ended]
  exact grow connection.db after interns.extends

/-- `REPLACE` on a table without a `UNIQUE` column adds its row like `INSERT`. -/
theorem replaceInto {ρ : Type} {table : TableIn Db ρ Unit fun _ => none} (grow : WritesGrow table) (row : ρ) :
    Adds (Sql.replaceInto table row) := by
  have same : Sql.replaceInto table row = Sql.insertInto table row := by
    funext connection
    exact Sql.replaceInto_free rfl
  rw [same]
  exact insertInto grow row

end Adds

theorem adds_compositional : Compositional Adds where
  pure := .pure
  stop := .stop
  bind := .bind
  unwrap := .unwrap
  transaction := .transaction
  key := .findOrCreate keysTable_grow
  author := .findOrCreate authorsTable_grow
  blob := .findOrCreate blobsTable_grow
  message := .insertMessage
  link := .insertInto linksRaw_grow
  mention := .insertInto mentionsRaw_grow
  blobLink := .insertInto blobLinksRaw_grow
  branch := .insertInto branchesRaw_grow
  contact := .replaceInto contactsRaw_grow
  about := .insertInto aboutsRaw_grow

section
variable {SecretKey : Type} (crates : Crates SecretKey) (secretKeys : List SecretKey)

theorem append_adds (seq : Sequence) (item : Bytes) : Adds (append crates secretKeys seq item) :=
  adds_compositional.append crates secretKeys seq item

theorem appendBatch_adds (items : List (Sequence × Bytes)) : Adds (appendBatch crates secretKeys items) :=
  adds_compositional.appendBatch crates secretKeys items

end

end FlumeViewSql

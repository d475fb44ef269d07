import FlumeViewSql.Relational.Statements

/-! Tables whose rowids count from 1 on without a gap.

A statement inserts behind the last row or not at all, and a rollback takes back the last rows,
so a table that is only inserted into stays so. Its rowids then say nothing that the order of its
rows does not, and two such tables that mean the same are equal.
-/

set_option autoImplicit false

namespace Relational

open Execution

variable {σ ρ κ A B : Type} {unique : ρ → Option κ}

theorem numbered_rowids (items : List A) :
    (numbered items).map Prod.fst = (List.range items.length).map fun position : Nat => (position : Int) + 1 := by
  induction items using List.reverseRecOn with
  | nil => rfl
  | append_singleton items item ih => simp [numbered_concat, ih, List.range_succ]

theorem numbered_contents (items : List A) : (numbered items).map Prod.snd = items := by
  induction items using List.reverseRecOn with
  | nil => rfl
  | append_singleton items item ih => simp [numbered_concat, ih]

namespace Table

/-- The rowids are 1, 2, … in the order of the rows. -/
def Dense (table : Table ρ κ unique) : Prop :=
  table.rows.map Prod.fst = (List.range table.rows.length).map fun position : Nat => (position : Int) + 1

instance (table : Table ρ κ unique) : Decidable table.Dense := inferInstanceAs (Decidable (_ = _))

theorem dense_empty : (empty : Table ρ κ unique).Dense := rfl

theorem Dense.newRowid {table : Table ρ κ unique} (dense : table.Dense) :
    table.newRowid = (table.rows.length : Int) + 1 := by
  unfold Table.newRowid lastRowid
  rw [dense, ← numbered_rowids]
  generalize table.rows = rows
  induction rows using List.reverseRecOn with
  | nil => rfl
  | append_singleton rows row ih =>
    rw [max_numbered_concat]
    simp

theorem Dense.insert {table after : Table ρ κ unique} (dense : table.Dense) {row : ρ}
    (rows : after.rows = table.rows ++ [(table.newRowid, row)]) : after.Dense := by
  rw [Dense, rows, List.map_append, dense.newRowid, dense, List.length_append, List.length_singleton,
    List.range_succ, List.map_append]
  rfl

end Table

/-- A dictionary that was filled by interning is dense. -/
theorem Dictionary.Numbers.dense [DecidableEq κ] {text : ρ → κ} {dictionary : Dictionary ρ κ text} {uses : List κ}
    (numbers : dictionary.Numbers uses) : dictionary.Dense := by
  have lengths : uses.eraseDups.length = dictionary.rows.length := by
    have same := congrArg List.length numbers
    simpa [numbered] using same.symm
  rw [Table.Dense, numbers.rowids, numbered_rowids, lengths]

/-! ### What every statement keeps -/

/-- A property of the database that holds before also holds after. -/
def Keeping (inv : σ → Prop) (before after : Connection σ) : Prop := inv before.db → inv after.db

instance (inv : σ → Prop) : IsPreorder (Connection σ) (Keeping inv) where
  refl _ := id
  trans _ _ _ early late := late ∘ early

namespace Sql

variable {inv : σ → Prop}

theorem change_keeping {table : TableIn σ ρ κ unique} {changed : Table ρ κ unique → Option (Int × Table ρ κ unique)}
    (keeps : ∀ db rowid after, inv db → changed (table.read db) = some (rowid, after) → inv (table.write db after)) :
    Action.Within (Keeping inv) (change table changed) := by
  intro connection holds
  cases done : changed (table.read connection.db) with
  | none =>
    rw [run_change_none done]
    exact holds
  | some result =>
    rw [run_change_some done]
    exact keeps connection.db result.1 result.2 holds done

/-- An insert without a rowid gives its row the next one. -/
theorem insertInto_keeping {table : TableIn σ ρ Unit fun _ => none}
    (keeps : ∀ db after, inv db → ((table.read db).Dense → after.Dense) → inv (table.write db after)) (row : ρ) :
    Action.Within (Keeping inv) (insertInto table row) := by
  apply change_keeping
  intro db rowid after holds done
  have free : (fun _ => none : ρ → Option Unit) row = none := rfl
  obtain ⟨inserted, found, rows⟩ := (table.read db).insert_of_free free
  have same := found.symm.trans done
  simp only [Option.some.injEq, Prod.mk.injEq] at same
  obtain ⟨-, rfl⟩ := same
  exact keeps db inserted holds fun dense => dense.insert rows

theorem transaction_keeping {α : Type} {body : Sql σ α} (within : Action.Within (Keeping inv) body) :
    Action.Within (Keeping inv) (transaction body) := within.transaction fun _ _ => id

end Sql

/-! ### Equal tables -/

/-- Rows that mean the same facts under the same rowids are the same rows. -/
theorem rows_eq_of_means {means : Int × ρ → B → Prop} {rows others : List (Int × ρ)} {facts : List B}
    (related : List.Forall₂ means rows facts) (related' : List.Forall₂ means others facts)
    (rowids : rows.map Prod.fst = others.map Prod.fst)
    (determined : ∀ rowid row other fact, means (rowid, row) fact → means (rowid, other) fact → row = other) :
    rows = others := by
  induction related generalizing others with
  | nil =>
    cases related'
    rfl
  | @cons entry fact rest facts first _ ih =>
    cases related' with
    | @cons entry' _ rest' _ first' later' =>
      obtain ⟨rowid, row⟩ := entry
      obtain ⟨rowid', row'⟩ := entry'
      simp only [List.map_cons, List.cons.injEq] at rowids
      obtain ⟨rfl, rowids⟩ := rowids
      rw [determined rowid row row' fact first first', ih later' rowids]

theorem Table.Dense.rowids_eq {table other : Table ρ κ unique} (dense : table.Dense) (dense' : other.Dense)
    (lengths : table.rows.length = other.rows.length) : table.rows.map Prod.fst = other.rows.map Prod.fst := by
  rw [dense, dense', lengths]

/-- Dense tables without a `UNIQUE` column that mean the same facts are equal. -/
theorem Table.eq_of_means {means : Int × ρ → B → Prop} {table other : Table ρ κ unique} {facts : List B}
    (dense : table.Dense) (dense' : other.Dense) (related : List.Forall₂ means table.rows facts)
    (related' : List.Forall₂ means other.rows facts)
    (determined : ∀ rowid row other fact, means (rowid, row) fact → means (rowid, other) fact → row = other) :
    table = other := by
  have lengths : table.rows.length = other.rows.length := related.length_eq.trans related'.length_eq.symm
  exact Table.ext (rows_eq_of_means related related' (dense.rowids_eq dense' lengths) determined)

/-- Dictionaries that interned the same keys are equal, where a row is determined by its number and key. -/
theorem Dictionary.eq_of_numbers [DecidableEq κ] {text : ρ → κ} {dictionary other : Dictionary ρ κ text}
    {uses : List κ} (numbers : dictionary.Numbers uses) (numbers' : other.Numbers uses) (allowed : Int × ρ → Prop)
    (all : ∀ row ∈ dictionary.rows, allowed row) (all' : ∀ row ∈ other.rows, allowed row)
    (determined : ∀ rowid row row', allowed (rowid, row) → allowed (rowid, row') → text row = text row' → row = row') :
    dictionary = other := by
  have meaning : ∀ {dictionary : Dictionary ρ κ text}, dictionary.Numbers uses →
      (∀ row ∈ dictionary.rows, allowed row) →
      List.Forall₂ (fun row fact => allowed row ∧ (row.1, text row.2) = fact) dictionary.rows
        (numbered uses.eraseDups) := by
    intro dictionary numbers all
    rw [List.forall₂_and_left]
    refine ⟨all, ?_⟩
    rw [Numbers, ← List.forall₂_eq_eq_eq, List.forall₂_map_left_iff] at numbers
    exact numbers
  apply Table.eq_of_means numbers.dense numbers'.dense (meaning numbers all) (meaning numbers' all')
  rintro rowid row row' fact ⟨here, means⟩ ⟨here', means'⟩
  exact determined rowid row row' here here' (Prod.mk.inj (means.trans means'.symm)).2

end Relational

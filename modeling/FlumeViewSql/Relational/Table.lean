import FlumeViewSql.Relational.Rows
import Mathlib.Data.List.Induction
import Mathlib.Data.Option.Basic
import Mathlib.Order.Lattice

/-! Rowid tables with at most one `UNIQUE` column, as SQLite keeps them.

A row is stored under an integer rowid. `unique` reads the column that carries a
`UNIQUE` constraint (`none` for SQL `NULL`, which never conflicts); a table without
such a column takes the constant `none`. Both constraints are fields, so a table
that breaks one cannot be built. Rows are listed in the order of their rowids, in which
SQLite scans a table, so a new row takes its place among them.
-/

set_option autoImplicit false

namespace Relational

structure Table (ρ κ : Type) (unique : ρ → Option κ) where
  rows : List (Int × ρ)
  sorted : (rows.map Prod.fst).Pairwise (· < ·)
  distinct : (rows.filterMap fun row => unique row.2).Nodup

namespace Table

variable {ρ κ : Type} {unique : ρ → Option κ}

theorem rowids (table : Table ρ κ unique) : (table.rows.map Prod.fst).Nodup := table.sorted.imp ne_of_lt

theorem ext {first second : Table ρ κ unique} (same : first.rows = second.rows) : first = second := by
  cases first
  cases second
  cases same
  rfl

theorem ext_iff {first second : Table ρ κ unique} : first = second ↔ first.rows = second.rows :=
  ⟨congrArg rows, ext⟩

instance [DecidableEq ρ] : DecidableEq (Table ρ κ unique) := fun _ _ => decidable_of_iff _ ext_iff.symm

def empty : Table ρ κ unique := ⟨[], .nil, List.nodup_nil⟩

/-- The largest rowid in use: `SELECT MAX(rowid)`. -/
def lastRowid (table : Table ρ κ unique) : Option Int := (table.rows.map Prod.fst).max?

/-- The rowid of a row inserted without one: one more than the largest, or 1. -/
def newRowid (table : Table ρ κ unique) : Int :=
  match table.lastRowid with
  | some last => last + 1
  | none => 1

/-- The row breaks neither the primary key nor the `UNIQUE` column. -/
def Admits (table : Table ρ κ unique) (rowid : Int) (row : ρ) : Prop :=
  rowid ∉ table.rows.map Prod.fst ∧ ∀ key ∈ unique row, key ∉ table.rows.filterMap fun other => unique other.2

instance [DecidableEq κ] (table : Table ρ κ unique) (rowid : Int) (row : ρ) :
    Decidable (table.Admits rowid row) :=
  inferInstanceAs (Decidable (_ ∧ _))

def add (table : Table ρ κ unique) (rowid : Int) (row : ρ) (admitted : table.Admits rowid row) :
    Table ρ κ unique where
  rows := table.rows.orderedInsert (OrderedBy Prod.fst) (rowid, row)
  sorted := increasing_orderedInsert table.sorted admitted.1
  distinct := by
    rw [((List.perm_orderedInsert (OrderedBy Prod.fst) (rowid, row) table.rows).filterMap _).nodup_iff]
    cases found : unique row with
    | none => simpa [found] using table.distinct
    | some key =>
      rw [List.filterMap_cons_some (b := key) (by exact found), List.nodup_cons]
      exact ⟨admitted.2 key found, table.distinct⟩

/-- `INSERT` with an explicit rowid; `none` is a constraint violation. -/
def insertAt [DecidableEq κ] (table : Table ρ κ unique) (rowid : Int) (row : ρ) : Option (Table ρ κ unique) :=
  if admitted : table.Admits rowid row then some (table.add rowid row admitted) else none

/-- `INSERT` without a rowid, with the rowid that was chosen. -/
def insert [DecidableEq κ] (table : Table ρ κ unique) (row : ρ) : Option (Int × Table ρ κ unique) :=
  (table.insertAt table.newRowid row).map fun inserted => (table.newRowid, inserted)

/-- The rows a `REPLACE` of `row` leaves: those that do not hold its `UNIQUE` value. -/
def dropConflicts [DecidableEq κ] (table : Table ρ κ unique) (row : ρ) : Table ρ κ unique where
  rows := table.rows.filter fun other => decide (∀ key ∈ unique row, unique other.2 ≠ some key)
  sorted := table.sorted.sublist (List.filter_sublist.map _)
  distinct := table.distinct.sublist (List.filter_sublist.filterMap _)

/-- `REPLACE INTO` without a rowid. The new rowid is chosen before rows are deleted. -/
def replace [DecidableEq κ] (table : Table ρ κ unique) (row : ρ) : Option (Int × Table ρ κ unique) :=
  ((table.dropConflicts row).insertAt table.newRowid row).map fun replaced => (table.newRowid, replaced)

/-- `UPDATE … WHERE id = rowid` of columns that are not the `UNIQUE` one. -/
def update (table : Table ρ κ unique) (rowid : Int) (change : ρ → ρ)
    (keeps : ∀ row, unique (change row) = unique row) : Table ρ κ unique where
  rows := table.rows.map fun row => if row.1 = rowid then (row.1, change row.2) else row
  sorted := by
    have same : Prod.fst ∘ (fun row : Int × ρ => if row.1 = rowid then (row.1, change row.2) else row) = Prod.fst := by
      funext row
      by_cases selected : row.1 = rowid <;> simp [selected]
    rw [List.map_map, same]
    exact table.sorted
  distinct := by
    have same : (fun row => unique row.2) ∘
        (fun row : Int × ρ => if row.1 = rowid then (row.1, change row.2) else row) = fun row => unique row.2 := by
      funext row
      by_cases selected : row.1 = rowid <;> simp [selected, keeps]
    rw [List.filterMap_map, same]
    exact table.distinct

/-- `JOIN table ON table.rowid = rowid`. -/
def join (table : Table ρ κ unique) (rowid : Int) : List ρ :=
  (table.rows.filter fun row => row.1 = rowid).map Prod.snd

/-- `JOIN` on a column that may be `NULL`, which joins with nothing. -/
def joinOption (table : Table ρ κ unique) : Option Int → List ρ
  | some rowid => table.join rowid
  | none => []

/-- The rows of a `LEFT JOIN`: one row of `NULL`s stands in for no match. -/
def leftJoin (table : Table ρ κ unique) (rowid : Option Int) : List (Option ρ) :=
  match table.joinOption rowid with
  | [] => [none]
  | matched => matched.map some

theorem insertAt_eq_some [DecidableEq κ] {table inserted : Table ρ κ unique} {rowid : Int} {row : ρ} :
    table.insertAt rowid row = some inserted ↔
      table.Admits rowid row ∧ inserted.rows = table.rows.orderedInsert (OrderedBy Prod.fst) (rowid, row) := by
  unfold insertAt
  by_cases admitted : table.Admits rowid row
  · simp only [admitted, dif_pos, true_and, Option.some.injEq]
    constructor
    · rintro rfl
      rfl
    · exact fun same => ext same.symm
  · simp [admitted]

theorem insertAt_eq_none [DecidableEq κ] {table : Table ρ κ unique} {rowid : Int} {row : ρ} :
    table.insertAt rowid row = none ↔ ¬ table.Admits rowid row := by
  unfold insertAt
  by_cases admitted : table.Admits rowid row <;> simp [admitted]

theorem le_lastRowid {table : Table ρ κ unique} {last rowid : Int} (found : table.lastRowid = some last)
    (member : rowid ∈ table.rows.map Prod.fst) : rowid ≤ last :=
  (List.max?_eq_some_iff.mp found).2 rowid member

theorem lt_newRowid {table : Table ρ κ unique} {rowid : Int} (member : rowid ∈ table.rows.map Prod.fst) :
    rowid < table.newRowid := by
  unfold newRowid
  cases found : table.lastRowid with
  | none =>
    have noRows := List.max?_eq_none_iff.mp found
    simp [noRows] at member
  | some last =>
    have bound := le_lastRowid found member
    simp only
    omega

theorem newRowid_fresh (table : Table ρ κ unique) : table.newRowid ∉ table.rows.map Prod.fst := by
  intro member
  exact lt_irrefl _ (lt_newRowid member)

/-- A row inserted without a rowid comes behind all the others. -/
theorem orderedInsert_newRowid (table : Table ρ κ unique) (row : ρ) :
    table.rows.orderedInsert (OrderedBy Prod.fst) (table.newRowid, row) = table.rows ++ [(table.newRowid, row)] := by
  apply orderedInsert_of_last
  intro other member before
  have behind : other.1 < table.newRowid := lt_newRowid (List.mem_map_of_mem member)
  exact absurd behind (not_lt_of_ge before)

theorem admits_newRowid {table : Table ρ κ unique} {row : ρ} :
    table.Admits table.newRowid row ↔
      ∀ key ∈ unique row, key ∉ table.rows.filterMap fun other => unique other.2 :=
  ⟨fun admitted => admitted.2, fun distinct => ⟨table.newRowid_fresh, distinct⟩⟩

/-- A row without a `UNIQUE` value is always inserted. -/
theorem insert_of_free [DecidableEq κ] (table : Table ρ κ unique) {row : ρ} (free : unique row = none) :
    ∃ inserted, table.insert row = some (table.newRowid, inserted) ∧
      inserted.rows = table.rows ++ [(table.newRowid, row)] := by
  have admitted : table.Admits table.newRowid row := admits_newRowid.mpr (by simp [free])
  obtain ⟨inserted, found⟩ := Option.ne_none_iff_exists'.mp
    (mt insertAt_eq_none.mp (not_not_intro admitted) : table.insertAt table.newRowid row ≠ none)
  refine ⟨inserted, by simp [insert, found], ?_⟩
  rw [(insertAt_eq_some.mp found).2, orderedInsert_newRowid]

/-- Without a `UNIQUE` column there is nothing for `REPLACE` to replace. -/
theorem replace_of_free [DecidableEq κ] (table : Table ρ κ unique) {row : ρ} (free : unique row = none) :
    table.replace row = table.insert row := by
  -- No row holds a `UNIQUE` value, so none conflicts.
  have same : table.dropConflicts row = table := by
    apply ext
    simp [dropConflicts, free]
  rw [replace, same, insert]

theorem row_unique (table : Table ρ κ unique) {rowid : Int} {row other : ρ}
    (member : (rowid, row) ∈ table.rows) (another : (rowid, other) ∈ table.rows) : row = other :=
  congrArg Prod.snd (List.inj_on_of_nodup_map table.rowids member another rfl)

theorem mem_join {table : Table ρ κ unique} {rowid : Int} {row : ρ} :
    row ∈ table.join rowid ↔ (rowid, row) ∈ table.rows := by
  simp [join]

theorem join_eq_singleton {table : Table ρ κ unique} {rowid : Int} {row : ρ}
    (member : (rowid, row) ∈ table.rows) : table.join rowid = [row] := by
  have selected : (table.rows.filter fun other => other.1 = rowid) = [(rowid, row)] :=
    filter_eq_singleton table.rowids member
  rw [join, selected, List.map_singleton]

end Table

end Relational

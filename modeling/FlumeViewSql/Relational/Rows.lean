import Mathlib.Data.List.Flatten
import Mathlib.Data.List.Forall2
import Mathlib.Data.List.Infix
import Mathlib.Data.List.Nodup
import Mathlib.Data.List.Sort

/-! Lists of rows: selecting by a value that no two rows share, rows that are kept in an order,
and rows related one by one to what they mean. -/

set_option autoImplicit false

namespace Relational

variable {A B C D κ : Type}

/-- A value that no two rows share selects one row. -/
theorem filter_eq_singleton [DecidableEq κ] {value : A → κ} {rows : List A} (distinct : (rows.map value).Nodup)
    {row : A} (member : row ∈ rows) : (rows.filter fun other => value other = value row) = [row] := by
  induction rows with
  | nil => cases member
  | cons first rest ih =>
    rw [List.map_cons, List.nodup_cons] at distinct
    rcases List.mem_cons.mp member with rfl | later
    · have others : (rest.filter fun other => value other = value row) = [] := by
        apply List.filter_eq_nil_iff.mpr
        intro other found same
        exact distinct.1 (List.mem_map.mpr ⟨other, found, of_decide_eq_true same⟩)
      rw [List.filter_cons_of_pos (by simp), others]
    · have different : value first ≠ value row := fun same =>
        distinct.1 (List.mem_map.mpr ⟨row, later, same.symm⟩)
      rw [List.filter_cons_of_neg (by simpa using different), ih distinct.2 later]

theorem filter_nil_or_singleton [DecidableEq κ] {value : A → κ} {rows : List A} (distinct : (rows.map value).Nodup)
    (key : κ) : (rows.filter fun row => value row = key) = [] ∨
      ∃ row ∈ rows, (rows.filter fun row => value row = key) = [row] := by
  cases selected : rows.filter fun row => value row = key with
  | nil => exact .inl rfl
  | cons row rest =>
    have member : row ∈ rows.filter fun row => value row = key := selected ▸ List.mem_cons_self
    obtain ⟨present, same⟩ := List.mem_filter.mp member
    have single := filter_eq_singleton distinct present
    rw [of_decide_eq_true same, selected] at single
    exact .inr ⟨row, present, single⟩

/-- A condition that at most one row meets selects the same row in any order. -/
theorem filter_eq_of_perm [DecidableEq κ] {value : A → κ} {rows others : List A} (perm : rows.Perm others)
    (distinct : (rows.map value).Nodup) (key : κ) :
    (rows.filter fun row => value row = key) = others.filter fun row => value row = key := by
  have selected := perm.filter fun row => decide (value row = key)
  rcases filter_nil_or_singleton distinct key with none | ⟨row, -, single⟩
  · rw [none] at selected ⊢
    exact (List.nil_perm.mp selected).symm
  · rw [single] at selected ⊢
    exact List.singleton_perm.mp selected

theorem max?_perm {first second : List Int} (perm : first.Perm second) : first.max? = second.max? := by
  cases found : second.max? with
  | none =>
    rw [List.max?_eq_none_iff] at found ⊢
    subst found
    exact List.perm_nil.mp perm
  | some largest =>
    obtain ⟨listed, above⟩ := List.max?_eq_some_iff.mp found
    rw [List.max?_eq_some_iff]
    exact ⟨perm.mem_iff.mpr listed, fun number member => above number (perm.mem_iff.mp member)⟩

/-! ### Rows in order -/

section
variable [LinearOrder κ] {value : A → κ}

/-- The order of rows by a value that they hold. -/
def OrderedBy (value : A → κ) (row other : A) : Prop := value row ≤ value other

instance : DecidableRel (OrderedBy value) :=
  fun row other => inferInstanceAs (Decidable (value row ≤ value other))

instance : Std.Total (OrderedBy value) := ⟨fun row other => le_total (value row) (value other)⟩

instance : IsTrans A (OrderedBy value) := ⟨fun _ _ _ => le_trans⟩

theorem map_orderedInsert (rows : List A) (row : A) :
    (rows.orderedInsert (OrderedBy value) row).map value = (rows.map value).orderedInsert (· ≤ ·) (value row) := by
  apply List.map_orderedInsert
  · exact fun _ _ => Iff.rfl
  · exact fun _ _ => Iff.rfl

/-- A row with a new value is put in its place. -/
theorem increasing_orderedInsert {rows : List A} (increasing : (rows.map value).Pairwise (· < ·)) {row : A}
    (fresh : value row ∉ rows.map value) :
    ((rows.orderedInsert (OrderedBy value) row).map value).Pairwise (· < ·) := by
  have ordered : ((rows.map value).orderedInsert (· ≤ ·) (value row)).Pairwise (· ≤ ·) :=
    (increasing.imp le_of_lt).orderedInsert (value row) _
  have different : ((rows.map value).orderedInsert (· ≤ ·) (value row)).Nodup :=
    (List.perm_orderedInsert _ (value row) _).nodup_iff.mpr (List.nodup_cons.mpr ⟨fresh, increasing.imp ne_of_lt⟩)
  rw [map_orderedInsert]
  exact (ordered.and different).imp fun ⟨le, ne⟩ => lt_of_le_of_ne le ne

/-- Rows with distinct values have one order by the value, whatever order they came in. -/
theorem insertionSort_eq_of_perm {rows others : List A} (perm : rows.Perm others) (distinct : (rows.map value).Nodup) :
    rows.insertionSort (OrderedBy value) = others.insertionSort (OrderedBy value) := by
  have sorted := (List.perm_insertionSort (OrderedBy value) rows).trans
    (perm.trans (List.perm_insertionSort (OrderedBy value) others).symm)
  apply sorted.eq_of_pairwise
  · intro row other member member' le ge
    have present : other ∈ rows := perm.mem_iff.mpr ((List.mem_insertionSort _).mp member')
    exact List.inj_on_of_nodup_map distinct ((List.mem_insertionSort _).mp member) present (le_antisymm le ge)
  · exact List.pairwise_insertionSort _ rows
  · exact List.pairwise_insertionSort _ others

end

/-- What comes behind all the rows is inserted behind them. -/
theorem orderedInsert_of_last (order : A → A → Prop) [DecidableRel order] {row : A} {rows : List A}
    (last : ∀ other ∈ rows, ¬ order row other) : rows.orderedInsert order row = rows ++ [row] := by
  induction rows with
  | nil => rfl
  | cons first rest ih =>
    rw [List.orderedInsert_of_not_le order rest (last first List.mem_cons_self),
      ih fun other member => last other (List.mem_cons_of_mem first member), List.cons_append]

/-- Distinct rows of a longer table that begin with the same values are its first rows. -/
theorem prefix_of_sublist {value : A → κ} {rows longer : List A} (within : rows.Sublist longer)
    (values : rows.map value <+: longer.map value) (distinct : (longer.map value).Nodup) : rows <+: longer := by
  induction within with
  | slnil => exact List.prefix_rfl
  | @cons rest longer row within ih =>
    cases rest with
    | nil => exact List.nil_prefix
    | cons first others =>
      -- The first of the rows would be both the one left out and a later one.
      rw [List.map_cons, List.map_cons, List.cons_prefix_cons] at values
      rw [List.map_cons, List.nodup_cons] at distinct
      have later : value first ∈ longer.map value := List.mem_map_of_mem (within.subset List.mem_cons_self)
      exact absurd (values.1 ▸ later) distinct.1
  | @cons_cons rest longer row within ih =>
    rw [List.map_cons, List.map_cons, List.cons_prefix_cons] at values
    rw [List.map_cons, List.nodup_cons] at distinct
    exact List.cons_prefix_cons.mpr ⟨rfl, ih values.2 distinct.2⟩

/-! ### Queries -/

theorem flatMap_prefix {rows longer : List A} {query query' : A → List B} (grown : rows <+: longer)
    (same : ∀ row ∈ rows, query row = query' row) : rows.flatMap query <+: longer.flatMap query' := by
  rw [List.flatMap_congr same]
  exact grown.flatMap query'

theorem flatMap_sublist {rows longer : List A} {query query' : A → List B} (grown : rows.Sublist longer)
    (same : ∀ row ∈ rows, query row = query' row) : (rows.flatMap query).Sublist (longer.flatMap query') := by
  rw [List.flatMap_congr same]
  exact grown.flatMap query'

/-- Every value selects its last row alone exactly when no two rows share a value. -/
theorem selects_last_iff_nodup [DecidableEq κ] {value : A → κ} {rows : List A} :
    (∀ key, (rows.filter fun row => value row = key) =
      (rows.filter fun row => value row = key).getLast?.toList) ↔ (rows.map value).Nodup := by
  constructor
  · intro last
    apply List.nodup_iff_count_le_one.mpr
    intro key
    have count : (rows.map value).count key = (rows.filter fun row => value row = key).length := by
      rw [List.count, List.countP_map, List.countP_eq_length_filter]
      rfl
    rw [count, last key]
    cases (rows.filter fun row => value row = key).getLast? <;> simp
  · intro distinct key
    cases selected : rows.filter fun row => value row = key with
    | nil => rfl
    | cons first rest =>
      have member : first ∈ rows.filter fun row => value row = key := by simp [selected]
      obtain ⟨present, same⟩ := List.mem_filter.mp member
      have single := filter_eq_singleton distinct present
      rw [of_decide_eq_true same, selected] at single
      rw [single]
      rfl

/-! ### Items that can be read -/

theorem mapM_isSome_iff {read : A → Option B} (items : List A) :
    (items.mapM read).isSome = true ↔ ∀ item ∈ items, (read item).isSome = true := by
  induction items with
  | nil => simp
  | cons item rest ih =>
    rw [List.mapM_cons, List.forall_mem_cons, ← ih]
    cases read item with
    | none => simp
    | some first => cases rest.mapM read <;> simp

theorem filterMap_of_mapM {read : A → Option B} {items : List A} {results : List B}
    (all : items.mapM read = some results) : items.filterMap read = results := by
  induction items generalizing results with
  | nil => simpa using all
  | cons item rest ih =>
    simp only [List.mapM_cons, Option.bind_eq_bind, Option.bind_eq_some_iff] at all
    obtain ⟨first, found, others, collected, same⟩ := all
    cases same
    rw [List.filterMap_cons_some found, ih collected]

theorem map_some_filterMap (read : A → Option B) (items : List A) :
    (items.filterMap read).map some = (items.filter fun item => (read item).isSome).map read := by
  induction items with
  | nil => rfl
  | cons item rest ih => cases found : read item <;> simp [found, ih]

/-- Where reading every item and showing what was read gives `results`, every item was read. -/
theorem all_read {read : A → Option B} {shown : B → C} {items : List A} {results : List C}
    (all : results.map some = items.map fun item => (read item).map shown) :
    items.map read = (items.filterMap read).map some ∧ results = (items.filterMap read).map shown := by
  induction items generalizing results with
  | nil => simpa using all
  | cons item rest ih =>
    cases results with
    | nil => simp at all
    | cons result others =>
      simp only [List.map_cons, List.cons.injEq] at all
      obtain ⟨first, later⟩ := all
      obtain ⟨value, found, rfl⟩ := Option.map_eq_some_iff.mp first.symm
      obtain ⟨reads, same⟩ := ih later
      rw [List.filterMap_cons_some found, List.map_cons, found, reads, same]
      exact ⟨rfl, rfl⟩

/-! ### Rows and what they mean -/

section
variable {means : A → B → Prop} {rows : List A} {facts : List B} (related : List.Forall₂ means rows facts)
include related

/-- Rows and facts that are kept in the same order stay related when one of each is inserted. -/
theorem forall₂_orderedInsert {onRows : A → A → Prop} {onFacts : B → B → Prop} [DecidableRel onRows]
    [DecidableRel onFacts] {row : A} {fact : B} (meant : means row fact)
    (same : ∀ other fact', means other fact' → (onRows row other ↔ onFacts fact fact')) :
    List.Forall₂ means (rows.orderedInsert onRows row) (facts.orderedInsert onFacts fact) := by
  induction related with
  | nil => exact .cons meant .nil
  | @cons other fact' _ _ first rest ih =>
    rw [List.orderedInsert_cons, List.orderedInsert_cons]
    by_cases before : onRows row other
    · rw [if_pos before, if_pos ((same other fact' first).mp before)]
      exact .cons meant (.cons first rest)
    · rw [if_neg before, if_neg fun behind => before ((same other fact' first).mpr behind)]
      exact .cons first ih

theorem exists_row_of_forall₂ {fact : B} (member : fact ∈ facts) : ∃ row ∈ rows, means row fact := by
  induction related with
  | nil => cases member
  | cons first rest ih =>
    rcases List.mem_cons.mp member with rfl | later
    · exact ⟨_, List.mem_cons_self, first⟩
    · obtain ⟨row, found, meant⟩ := ih later
      exact ⟨row, List.mem_cons_of_mem _ found, meant⟩

theorem exists_fact_of_forall₂ {row : A} (member : row ∈ rows) : ∃ fact ∈ facts, means row fact :=
  exists_row_of_forall₂ related.flip member

theorem forall₂_imp_mem {means' : A → B → Prop} (implies : ∀ row, ∀ fact ∈ facts, means row fact → means' row fact) :
    List.Forall₂ means' rows facts := by
  induction related with
  | nil => exact .nil
  | cons first rest ih =>
    have later := ih fun row fact member => implies row fact (List.mem_cons_of_mem _ member)
    exact .cons (implies _ _ List.mem_cons_self first) later

/-- A query that turns each row into what the row means turns the table into its facts. -/
theorem map_flatMap_of_forall₂ {query : A → List C} {read : C → D} {shown : B → List D}
    (single : ∀ row fact, means row fact → (query row).map read = shown fact) :
    (rows.flatMap query).map read = facts.flatMap shown := by
  induction related with
  | nil => rfl
  | cons first _ ih => rw [List.flatMap_cons, List.flatMap_cons, List.map_append, single _ _ first, ih]

/-- A query that shows the row of each fact that is `selected`, and no row for the others. -/
theorem selects_of_forall₂ {query : A → List C} {selected : B → Prop} [DecidablePred selected] {shown : B → C}
    (selects : ∀ row fact, means row fact → query row = if selected fact then [shown fact] else []) :
    rows.flatMap query = (facts.filter selected).map shown := by
  induction related with
  | nil => rfl
  | cons first _ ih =>
    rw [List.flatMap_cons, selects _ _ first, ih, List.filter_cons]
    split <;> simp [*]

/-- A query that shows one row for each row of the table shows its facts. -/
theorem shows_of_forall₂ {query : A → List C} {read : C → B}
    (single : ∀ row fact, means row fact → (query row).map read = [fact]) : (rows.flatMap query).map read = facts := by
  have shown := map_flatMap_of_forall₂ related single
  rwa [List.flatMap_singleton'] at shown

end

end Relational

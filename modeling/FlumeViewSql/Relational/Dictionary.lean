import FlumeViewSql.Relational.Table
import Mathlib.Data.List.Infix
import Mathlib.Logic.Relator

/-! Dictionaries: rowid tables that give every string one number, and keep it.

Interning looks a key up and inserts it when it is absent. Rows are only ever
added, so a number once given out means the same key in every later dictionary,
and from an empty dictionary the numbers follow the order of first use.
-/

set_option autoImplicit false

namespace Relational

/-- A table whose `UNIQUE` column holds a key in every row. -/
abbrev Dictionary (ρ κ : Type) (text : ρ → κ) := Table ρ κ fun row => some (text row)

/-! ### Distinct keys, in the order of first use -/

section
variable {κ : Type} [DecidableEq κ]

theorem eraseDups_concat (uses : List κ) (key : κ) :
    (uses ++ [key]).eraseDups = if key ∈ uses then uses.eraseDups else uses.eraseDups ++ [key] := by
  rw [List.eraseDups_append]
  by_cases seen : key ∈ uses <;> simp [seen, List.removeAll, List.eraseDups_cons]

theorem eraseDups_growing (uses more : List κ) : uses.eraseDups <+: (uses ++ more).eraseDups := by
  rw [List.eraseDups_append]
  exact List.prefix_append _ _

theorem nodup_eraseDups (uses : List κ) : uses.eraseDups.Nodup := by
  induction uses using List.reverseRecOn with
  | nil => exact List.nodup_nil
  | append_singleton uses key ih =>
    rw [eraseDups_concat]
    split
    · exact ih
    · next unseen =>
      rw [← List.concat_eq_append]
      exact ih.concat (mt List.mem_eraseDups.mp unseen)

/-- The order of uses changes the order of the keys alone. -/
theorem eraseDups_perm {uses others : List κ} (perm : uses.Perm others) : uses.eraseDups.Perm others.eraseDups := by
  rw [List.perm_ext_iff_of_nodup (nodup_eraseDups uses) (nodup_eraseDups others)]
  intro key
  rw [List.mem_eraseDups, List.mem_eraseDups, perm.mem_iff]

/-- Further uses bring no new key exactly when all of them were seen. -/
theorem length_eraseDups_append_iff {uses more : List κ} :
    (uses ++ more).eraseDups.length = uses.eraseDups.length ↔ ∀ key ∈ more, key ∈ uses := by
  constructor
  · intro lengths key member
    have same := (eraseDups_growing uses more).eq_of_length lengths.symm
    rw [← List.mem_eraseDups, same, List.mem_eraseDups]
    exact List.mem_append_right uses member
  · intro seen
    -- Keys that were used before are skipped, so the list stays as it is.
    have skipped : more.removeAll uses = [] := by
      apply List.filter_eq_nil_iff.mpr
      intro key member
      simpa using seen key member
    rw [List.eraseDups_append, skipped, List.eraseDups_nil, List.append_nil]

end

/-- The numbers SQLite hands out to keys inserted one after another: 1, 2, … -/
def numbered {κ : Type} (keys : List κ) : List (Int × κ) :=
  keys.mapIdx fun position key => ((position : Int) + 1, key)

theorem numbered_concat {κ : Type} (keys : List κ) (key : κ) :
    numbered (keys ++ [key]) = numbered keys ++ [((keys.length : Int) + 1, key)] := by
  simp [numbered]

theorem mem_numbered {κ : Type} {keys : List κ} {number : Int} {key : κ} :
    (number, key) ∈ numbered keys ↔ ∃ position : Nat, keys[position]? = some key ∧ number = (position : Int) + 1 := by
  simp only [numbered, List.mem_iff_getElem?, List.getElem?_mapIdx, Option.map_eq_some_iff, Prod.mk.injEq]
  constructor
  · rintro ⟨position, found, selected, same, rfl⟩
    exact ⟨position, selected, same.symm⟩
  · rintro ⟨position, selected, rfl⟩
    exact ⟨position, key, selected, rfl, rfl⟩

/-- The largest number is that of the last key. -/
theorem max_numbered_concat {κ : Type} (keys : List κ) (key : κ) :
    ((numbered (keys ++ [key])).map Prod.fst).max? = some ((keys.length : Int) + 1) := by
  rw [List.max?_eq_some_iff]
  refine ⟨by simp [numbered_concat], fun number member => ?_⟩
  obtain ⟨⟨number, other⟩, listed, rfl⟩ := List.mem_map.mp member
  obtain ⟨position, selected, rfl⟩ := mem_numbered.mp listed
  have bound := (List.getElem?_eq_some_iff.mp selected).1
  simp only [List.length_append, List.length_singleton] at bound
  omega

namespace Dictionary

variable {ρ κ : Type} {text : ρ → κ}

/-- `rowid` is the number of `key`. -/
def Maps (dictionary : Dictionary ρ κ text) (rowid : Int) (key : κ) : Prop :=
  ∃ row, (rowid, row) ∈ dictionary.rows ∧ text row = key

def Extends (before after : Dictionary ρ κ text) : Prop := before.rows <+: after.rows

theorem Extends.refl (dictionary : Dictionary ρ κ text) : dictionary.Extends dictionary := List.prefix_rfl

theorem Extends.trans {first second third : Dictionary ρ κ text} (early : first.Extends second)
    (late : second.Extends third) : first.Extends third := List.IsPrefix.trans early late

theorem Maps.mono {before after : Dictionary ρ κ text} (grows : before.Extends after) {rowid : Int} {key : κ}
    (maps : before.Maps rowid key) : after.Maps rowid key := by
  obtain ⟨row, member, same⟩ := maps
  exact ⟨row, grows.subset member, same⟩

theorem Maps.functional {dictionary : Dictionary ρ κ text} {rowid : Int} {key other : κ}
    (maps : dictionary.Maps rowid key) (another : dictionary.Maps rowid other) : key = other := by
  obtain ⟨row, member, rfl⟩ := maps
  obtain ⟨row', member', rfl⟩ := another
  rw [dictionary.row_unique member member']

theorem Maps.injective {dictionary : Dictionary ρ κ text} {rowid other : Int} {key : κ}
    (maps : dictionary.Maps rowid key) (another : dictionary.Maps other key) : rowid = other := by
  obtain ⟨row, member, same⟩ := maps
  obtain ⟨row', member', same'⟩ := another
  have keys : (dictionary.rows.map fun row => text row.2).Nodup := by
    rw [← List.filterMap_eq_map']
    exact dictionary.distinct
  exact congrArg Prod.fst (List.inj_on_of_nodup_map keys member member' (same.trans same'.symm))

theorem maps_biUnique {dictionary : Dictionary ρ κ text} : Relator.BiUnique dictionary.Maps :=
  ⟨fun _ _ _ maps another => maps.injective another, fun _ _ _ maps another => maps.functional another⟩

/-- A join on a number that was given out has one row, that of the key. -/
theorem Maps.join {dictionary : Dictionary ρ κ text} {rowid : Int} {key : κ}
    (maps : dictionary.Maps rowid key) : ∃ row, dictionary.join rowid = [row] ∧ text row = key := by
  obtain ⟨row, member, same⟩ := maps
  exact ⟨row, Table.join_eq_singleton member, same⟩

theorem Maps.leftJoin {dictionary : Dictionary ρ κ text} {rowid : Option Int} {key : Option κ}
    (related : Option.Rel dictionary.Maps rowid key) :
    ∃ row, dictionary.leftJoin rowid = [row] ∧ row.map text = key := by
  cases related with
  | none => exact ⟨none, rfl, rfl⟩
  | some maps =>
    obtain ⟨row, joined, same⟩ := maps.join
    exact ⟨some row, by simp [Table.leftJoin, Table.joinOption, joined], congrArg some same⟩

/-- A join that found its row finds it in a longer dictionary too. -/
theorem Maps.join_eq {before after : Dictionary ρ κ text} (grows : before.Extends after) {rowid : Int} {key : κ}
    (maps : before.Maps rowid key) : before.join rowid = after.join rowid := by
  obtain ⟨row, member, -⟩ := maps
  rw [Table.join_eq_singleton member, Table.join_eq_singleton (grows.subset member)]

theorem Maps.leftJoin_eq {before after : Dictionary ρ κ text} (grows : before.Extends after) {rowid : Option Int}
    {key : Option κ} (related : Option.Rel before.Maps rowid key) : before.leftJoin rowid = after.leftJoin rowid := by
  cases related with
  | none => rfl
  | some maps => rw [Table.leftJoin, Table.leftJoin, Table.joinOption, Table.joinOption, maps.join_eq grows]

theorem maps_iff_mem {dictionary : Dictionary ρ κ text} {key : κ} :
    (∃ rowid, dictionary.Maps rowid key) ↔ key ∈ dictionary.rows.map fun row => text row.2 := by
  simp [Maps, List.mem_map]

theorem admits_iff_absent {dictionary : Dictionary ρ κ text} {row : ρ} :
    dictionary.Admits dictionary.newRowid row ↔ ∀ rowid, ¬ dictionary.Maps rowid (text row) := by
  rw [Table.admits_newRowid, ← not_exists, maps_iff_mem]
  simp

/-- Looking `key` up and inserting `blank key` when it is absent: the number, and the dictionary after. -/
inductive Interns (blank : κ → ρ) (dictionary : Dictionary ρ κ text) (key : κ) :
    Int → Dictionary ρ κ text → Prop where
  | found {rowid : Int} : dictionary.Maps rowid key → Interns blank dictionary key rowid dictionary
  | created {after : Dictionary ρ κ text} : (∀ rowid, ¬ dictionary.Maps rowid key) →
      after.rows = dictionary.rows ++ [(dictionary.newRowid, blank key)] →
      Interns blank dictionary key dictionary.newRowid after

section
variable {blank : κ → ρ} {dictionary after : Dictionary ρ κ text} {key : κ} {rowid : Int}

/-- The key under its number is all that is new. -/
theorem Interns.maps_iff (names : ∀ key, text (blank key) = key)
    (interns : Interns blank dictionary key rowid after) {number : Int} {other : κ} :
    after.Maps number other ↔ dictionary.Maps number other ∨ (other = key ∧ number = rowid) := by
  cases interns with
  | found maps =>
    constructor
    · exact Or.inl
    · rintro (before | ⟨rfl, rfl⟩)
      · exact before
      · exact maps
  | created absent rows =>
    simp only [Maps, rows, List.mem_append, List.mem_singleton, Prod.mk.injEq, or_and_right, exists_or]
    apply or_congr_right
    constructor
    · rintro ⟨row, ⟨rfl, rfl⟩, rfl⟩
      exact ⟨names key, rfl⟩
    · rintro ⟨rfl, rfl⟩
      exact ⟨blank other, ⟨rfl, rfl⟩, names other⟩

theorem Interns.maps (names : ∀ key, text (blank key) = key)
    (interns : Interns blank dictionary key rowid after) : after.Maps rowid key :=
  (interns.maps_iff names).mpr (.inr ⟨rfl, rfl⟩)

theorem Interns.extends (interns : Interns blank dictionary key rowid after) : dictionary.Extends after := by
  cases interns with
  | found maps => exact .refl _
  | created absent rows => exact ⟨_, rows.symm⟩

theorem Interns.unique {rowid' : Int} {after' : Dictionary ρ κ text}
    (interns : Interns blank dictionary key rowid after) (again : Interns blank dictionary key rowid' after') :
    rowid = rowid' ∧ after = after' := by
  cases interns with
  | found maps =>
    cases again with
    | found maps' => exact ⟨maps.injective maps', rfl⟩
    | created absent rows => exact absurd maps (absent _)
  | created absent rows =>
    cases again with
    | found maps' => exact absurd maps' (absent _)
    | created absent' rows' => exact ⟨rfl, Table.ext (rows.trans rows'.symm)⟩

end

section
variable [DecidableEq κ]

/-- `SELECT id FROM dictionary WHERE text = key`. -/
def find (dictionary : Dictionary ρ κ text) (key : κ) : Option Int :=
  (dictionary.rows.find? fun row => text row.2 = key).map Prod.fst

theorem find_eq_some {dictionary : Dictionary ρ κ text} {rowid : Int} {key : κ} :
    dictionary.find key = some rowid ↔ dictionary.Maps rowid key := by
  constructor
  · intro found
    simp only [find, Option.map_eq_some_iff] at found
    obtain ⟨⟨id, row⟩, selected, rfl⟩ := found
    exact ⟨row, List.mem_of_find?_eq_some selected, by simpa using List.find?_some selected⟩
  · rintro ⟨row, member, same⟩
    cases selected : dictionary.rows.find? fun row => text row.2 = key with
    | none =>
      have absent := List.find?_eq_none.mp selected _ member
      simp [same] at absent
    | some entry =>
      have maps : dictionary.Maps entry.1 key :=
        ⟨entry.2, List.mem_of_find?_eq_some selected, by simpa using List.find?_some selected⟩
      simp only [find, selected, Option.map_some, Option.some.injEq]
      exact maps.injective ⟨row, member, same⟩

theorem find_eq_none {dictionary : Dictionary ρ κ text} {key : κ} :
    dictionary.find key = none ↔ ∀ rowid, ¬ dictionary.Maps rowid key := by
  rw [Option.eq_none_iff_forall_ne_some]
  exact forall_congr' fun rowid => not_congr find_eq_some

/-- The dictionary was filled by interning `uses`, in this order, from empty. -/
def Numbers (dictionary : Dictionary ρ κ text) (uses : List κ) : Prop :=
  dictionary.rows.map (fun row => (row.1, text row.2)) = numbered uses.eraseDups

section
variable {dictionary after : Dictionary ρ κ text} {uses : List κ}

theorem Numbers.maps_iff (numbers : dictionary.Numbers uses) {rowid : Int} {key : κ} :
    dictionary.Maps rowid key ↔
      ∃ position : Nat, uses.eraseDups[position]? = some key ∧ rowid = (position : Int) + 1 := by
  rw [← mem_numbered, ← numbers]
  simp [Maps, List.mem_map]

theorem Numbers.mem_iff (numbers : dictionary.Numbers uses) {key : κ} :
    (∃ rowid, dictionary.Maps rowid key) ↔ key ∈ uses := by
  rw [← List.mem_eraseDups, List.mem_iff_getElem?]
  constructor
  · rintro ⟨rowid, maps⟩
    obtain ⟨position, selected, -⟩ := numbers.maps_iff.mp maps
    exact ⟨position, selected⟩
  · rintro ⟨position, selected⟩
    exact ⟨(position : Int) + 1, numbers.maps_iff.mpr ⟨position, selected, rfl⟩⟩

/-- A key has one number in two dictionaries exactly when it came at the same place in both. -/
theorem Numbers.same_number_iff {ρ' : Type} {text' : ρ' → κ} {other : Dictionary ρ' κ text'} {uses' : List κ}
    (numbers : dictionary.Numbers uses) (numbers' : other.Numbers uses') {rowid : Int} {key : κ}
    (maps : dictionary.Maps rowid key) : other.Maps rowid key ↔
      ∀ position : Nat, uses.eraseDups[position]? = some key → uses'.eraseDups[position]? = some key := by
  constructor
  · intro maps' position selected
    obtain ⟨position', selected', same⟩ := numbers'.maps_iff.mp maps'
    have number := maps.injective (numbers.maps_iff.mpr ⟨position, selected, rfl⟩)
    have places : position = position' := by omega
    rw [places, selected']
  · intro aligned
    obtain ⟨position, selected, same⟩ := numbers.maps_iff.mp maps
    exact numbers'.maps_iff.mpr ⟨position, aligned position selected, same⟩

/-- What a join on any number shows. -/
theorem Numbers.join (numbers : dictionary.Numbers uses) (position : Nat) :
    (dictionary.join ((position : Int) + 1)).map text = uses.eraseDups[position]?.toList := by
  cases selected : uses.eraseDups[position]? with
  | some key =>
    obtain ⟨row, joined, same⟩ := (numbers.maps_iff.mpr ⟨position, selected, rfl⟩).join
    rw [joined, List.map_singleton, same, Option.toList_some]
  | none =>
    cases joined : dictionary.join ((position : Int) + 1) with
    | nil => rfl
    | cons row rest =>
      have member : row ∈ dictionary.join ((position : Int) + 1) := joined ▸ List.mem_cons_self
      obtain ⟨position', selected', same⟩ := numbers.maps_iff.mp ⟨row, Table.mem_join.mp member, rfl⟩
      have places : position = position' := by omega
      rw [places, selected'] at selected
      cases selected

theorem Numbers.rowids (numbers : dictionary.Numbers uses) :
    dictionary.rows.map Prod.fst = (numbered uses.eraseDups).map Prod.fst := by
  rw [← numbers, List.map_map]
  rfl

theorem Numbers.newRowid (numbers : dictionary.Numbers uses) :
    dictionary.newRowid = (uses.eraseDups.length : Int) + 1 := by
  unfold Table.newRowid Table.lastRowid
  rw [numbers.rowids]
  generalize uses.eraseDups = keys
  induction keys using List.reverseRecOn with
  | nil => rfl
  | append_singleton keys key ih =>
    rw [max_numbered_concat]
    simp

/-- Interning one more key appends its use. -/
theorem Interns.numbers {blank : κ → ρ} (names : ∀ key, text (blank key) = key) {key : κ} {rowid : Int}
    (interns : Interns blank dictionary key rowid after) (numbers : dictionary.Numbers uses) :
    after.Numbers (uses ++ [key]) := by
  cases interns with
  | found maps =>
    have seen : key ∈ uses := numbers.mem_iff.mp ⟨_, maps⟩
    rw [Numbers, eraseDups_concat, if_pos seen]
    exact numbers
  | created absent rows =>
    have unseen : key ∉ uses := fun seen => (numbers.mem_iff.mpr seen).elim absent
    rw [Numbers, eraseDups_concat, if_neg unseen, numbered_concat, rows, List.map_append, numbers,
      numbers.newRowid, List.map_singleton, names]

end

end

end Dictionary

end Relational

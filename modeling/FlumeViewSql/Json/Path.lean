import FlumeViewSql.Json.Value

/-! Places inside a JSON value.

A path counts elements and members from the outside in, the members in the order of the map.
Pre-order is the lexicographic order of paths: a value stands before what is inside it, and an
element or member before the later ones.
-/

set_option autoImplicit false

namespace Json

namespace Value

/-- The value at a path. -/
def valueAt : Value → List Nat → Option Value
  | value, [] => some value
  | .array size element, position :: rest =>
    if bound : position < size then (element ⟨position, bound⟩).valueAt rest else none
  | .object names member, position :: rest =>
    if bound : position < names.list.length then (member ⟨position, bound⟩).valueAt rest else none
  | _, _ :: _ => none

/-- All paths that lead somewhere, in pre-order. -/
def paths : Value → List (List Nat)
  | .array size element =>
    [] :: (List.finRange size).flatMap fun position => (element position).paths.map (position.val :: ·)
  | .object names member =>
    [] :: (List.finRange names.list.length).flatMap fun position => (member position).paths.map (position.val :: ·)
  | _ => [[]]

/-- What the object at a path stores under `name`. -/
def storedAt (name : String) (value : Value) (path : List Nat) : Option Value := (value.valueAt path).bind (get name)

section
variable {size : Nat} {inside : Fin size → List (List Nat)}

/-- Paths that go into one of several values, ordered in each, are ordered. -/
theorem increasing_below (each : ∀ position, (inside position).Pairwise (· < ·)) :
    ([] :: (List.finRange size).flatMap fun position => (inside position).map (position.val :: ·)).Pairwise
      (· < ·) := by
  rw [List.pairwise_cons, List.pairwise_flatMap]
  refine ⟨?_, ?_, ?_⟩
  · intro path member
    obtain ⟨position, -, deeper⟩ := List.mem_flatMap.mp member
    obtain ⟨rest, -, rfl⟩ := List.mem_map.mp deeper
    exact List.nil_lt_cons _ _
  · intro position _
    rw [List.pairwise_map]
    exact (each position).imp fun before => List.cons_lt_cons_iff.mpr (.inr ⟨rfl, before⟩)
  · apply (List.pairwise_lt_finRange size).imp
    intro position later order path member path' member'
    obtain ⟨rest, -, rfl⟩ := List.mem_map.mp member
    obtain ⟨rest', -, rfl⟩ := List.mem_map.mp member'
    exact List.cons_lt_cons_iff.mpr (.inl order)

theorem cons_mem_below {position : Nat} {rest : List Nat} :
    position :: rest ∈ ([] :: (List.finRange size).flatMap fun position =>
        (inside position).map (position.val :: ·)) ↔ ∃ bound : position < size, rest ∈ inside ⟨position, bound⟩ := by
  simp only [List.mem_cons, reduceCtorEq, false_or, List.mem_flatMap, List.mem_finRange, true_and, List.mem_map,
    List.cons.injEq]
  constructor
  · rintro ⟨found, rest', member, rfl, rfl⟩
    exact ⟨found.isLt, member⟩
  · rintro ⟨bound, member⟩
    exact ⟨⟨position, bound⟩, rest, member, rfl, rfl⟩

end

theorem paths_increasing (value : Value) : value.paths.Pairwise (· < ·) := by
  induction value with
  | array size element ih => exact increasing_below ih
  | object names member ih => exact increasing_below ih
  | _ => exact List.pairwise_singleton _ _

theorem mem_paths_iff {value : Value} {path : List Nat} :
    path ∈ value.paths ↔ ∃ inside, value.valueAt path = some inside := by
  induction value generalizing path with
  | array size element ih =>
    cases path with
    | nil => simp [paths, valueAt]
    | cons position rest =>
      rw [paths, cons_mem_below, valueAt]
      by_cases bound : position < size <;> simp [bound, ih]
  | object names member ih =>
    cases path with
    | nil => simp [paths, valueAt]
    | cons position rest =>
      rw [paths, cons_mem_below, valueAt]
      by_cases bound : position < names.list.length <;> simp [bound, ih]
  | _ => cases path <;> simp [paths, valueAt]

/-- Where a step into `value` leads into `inside`, so do the paths below it. -/
theorem filterMap_below {size : Nat} {inside : Fin size → Value} {value : Value}
    (step : ∀ position rest, value.valueAt (position.val :: rest) = (inside position).valueAt rest) :
    ((List.finRange size).flatMap fun position => (inside position).paths.map (position.val :: ·)).filterMap
        value.valueAt =
      (List.finRange size).flatMap fun position => (inside position).paths.filterMap (inside position).valueAt := by
  rw [List.filterMap_flatMap]
  apply List.flatMap_congr
  intro position _
  rw [List.filterMap_map]
  apply List.filterMap_congr
  exact fun rest _ => step position rest

/-- The values inside, in pre-order. -/
theorem nodes_eq_paths (value : Value) : value.nodes = value.paths.filterMap value.valueAt := by
  induction value with
  | array size element ih =>
    rw [nodes, paths, List.filterMap_cons_some (by rw [valueAt]), filterMap_below (by simp [valueAt])]
    simp only [ih]
  | object names member ih =>
    rw [nodes, paths, List.filterMap_cons_some (by rw [valueAt]), filterMap_below (by simp [valueAt])]
    simp only [ih]
  | _ => rfl

theorem valuesUnder_eq_storedAt (name : String) (value : Value) :
    value.valuesUnder name = value.paths.filterMap (value.storedAt name) := by
  rw [valuesUnder, nodes_eq_paths, List.filterMap_filterMap]
  rfl

end Value

end Json

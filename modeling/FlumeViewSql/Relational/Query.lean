import Mathlib.Data.List.Basic

/-! Queries that join named relations and filter them, as SQL runs them.

Every column name is resolved before any row is read. A comparison with `NULL` is
unknown, and so is its negation; a row is kept when every condition is true.
-/

set_option autoImplicit false

namespace Relational

/-- A column name, which may name the relation it belongs to. -/
structure Column where
  relation : Option String
  name : String
  deriving DecidableEq, Repr

/-- A truth value; `none` is unknown. -/
abbrev Truth := Option Bool

def Truth.not : Truth → Truth := Option.map Bool.not

inductive Condition (γ ν : Type) where
  | equal (column : γ) (value : ν)
  | equalColumns (first second : γ)
  | not (condition : Condition γ ν)
  deriving Repr

structure Join (ν : Type) where
  relation : String
  on : Condition Column ν
  deriving Repr

/-- `SELECT columns FROM relation JOIN … ON … WHERE …`. -/
structure Query (ν : Type) where
  columns : List Column
  relation : String
  joins : List (Join ν)
  conditions : List (Condition Column ν)
  deriving Repr

inductive QueryError where
  | noSuchTable (name : String)
  | noSuchColumn (column : Column)
  | ambiguousColumnName (column : Column)
  deriving DecidableEq, Repr

/-- Named columns, and what each row holds in them. -/
structure Relation (ν : Type) where
  columns : List String
  rows : List (String → ν)

/-- The relation that shows values of `ρ` through the given columns. -/
def Relation.of {ρ ν : Type} [Inhabited ν] (columns : List (String × (ρ → ν))) (rows : List ρ) : Relation ν where
  columns := columns.map Prod.fst
  rows := rows.map fun row name => ((columns.lookup name).map fun read => read row).getD default

/-- The columns of one or more relations, each with the name of its relation. -/
structure Scope (ν : Type) where
  columns : List (String × String)
  rows : List (String × String → ν)

namespace Scope

variable {ν : Type}

def one (name : String) (relation : Relation ν) : Scope ν where
  columns := relation.columns.map (name, ·)
  rows := relation.rows.map fun row column => row column.2

def cross (first second : Scope ν) : Scope ν where
  columns := first.columns ++ second.columns
  rows := first.rows.flatMap fun row => second.rows.map fun other column =>
    if column ∈ first.columns then row column else other column

/-- The columns that a name can stand for. -/
def candidates (scope : Scope ν) (column : Column) : List (String × String) :=
  scope.columns.filter fun found => found.2 = column.name ∧ ∀ relation ∈ column.relation, found.1 = relation

def resolve (scope : Scope ν) (column : Column) : Except QueryError (String × String) :=
  match scope.candidates column with
  | [found] => .ok found
  | [] => .error (.noSuchColumn column)
  | _ => .error (.ambiguousColumnName column)

end Scope

namespace Condition

variable {γ ν : Type}

def columns : Condition γ ν → List γ
  | .equal column _ => [column]
  | .equalColumns first second => [first, second]
  | .not condition => condition.columns

def resolve (scope : Scope ν) : Condition Column ν → Except QueryError (Condition (String × String) ν)
  | .equal column value => do return .equal (← scope.resolve column) value
  | .equalColumns first second => do return .equalColumns (← scope.resolve first) (← scope.resolve second)
  | .not condition => do return .not (← condition.resolve scope)

def eval (equals : ν → ν → Truth) (row : γ → ν) : Condition γ ν → Truth
  | .equal column value => equals (row column) value
  | .equalColumns first second => equals (row first) (row second)
  | .not condition => (condition.eval equals row).not

end Condition

namespace Query

variable {ν : Type} (relations : String → Option (Relation ν)) (equals : ν → ν → Truth)

def join (query : Query ν) (relation : String) (first second : Column) : Query ν :=
  { query with joins := query.joins ++ [⟨relation, .equalColumns first second⟩] }

def whereEqual (query : Query ν) (column : Column) (value : ν) : Query ν :=
  { query with conditions := query.conditions ++ [.equal column value] }

def whereNot (query : Query ν) (column : Column) (value : ν) : Query ν :=
  { query with conditions := query.conditions ++ [.not (.equal column value)] }

def openRelation (name : String) : Except QueryError (Scope ν) :=
  match relations name with
  | some relation => .ok (.one name relation)
  | none => .error (.noSuchTable name)

def scope (query : Query ν) : Except QueryError (Scope ν) := do
  (query.joins.map Join.relation).foldlM (fun joined name => do return joined.cross (← openRelation relations name))
    (← openRelation relations query.relation)

/-- The conditions of the joins and of the `WHERE` clause. -/
def tests (query : Query ν) : List (Condition Column ν) := query.joins.map Join.on ++ query.conditions

def run (query : Query ν) : Except QueryError (List (List ν)) := do
  let scope ← query.scope relations
  let selected ← query.columns.mapM scope.resolve
  let tests ← query.tests.mapM (Condition.resolve scope)
  return (scope.rows.filter fun row => ∀ test ∈ tests, test.eval equals row = some true).map selected.map

end Query

/-! ### Queries of one relation -/

section
variable {ρ ν : Type} [Inhabited ν]

/-- What a row holds in a column. -/
def Relation.cell (columns : List (String × (ρ → ν))) (row : ρ) (column : String × String) : ν :=
  ((columns.lookup column.2).map fun read => read row).getD default

/-- Rows that look alike in every column hold the same in each. -/
theorem Relation.cell_congr {columns : List (String × (ρ → ν))} {row other : ρ}
    (same : columns.map (fun column => column.2 row) = columns.map fun column => column.2 other) :
    Relation.cell columns row = Relation.cell columns other := by
  funext column
  unfold Relation.cell
  induction columns with
  | nil => rfl
  | cons first rest ih =>
    simp only [List.map_cons, List.cons.injEq] at same
    obtain ⟨name, read⟩ := first
    rw [List.lookup_cons]
    cases column.2 == name with
    | true => exact same.1
    | false => exact ih same.2

/-- Once its names are resolved, such a query keeps the rows that pass every test. -/
theorem Query.run_one {relations : String → Option (Relation ν)} (equals : ν → ν → Truth) {query : Query ν}
    {shown : List (String × (ρ → ν))} {rows : List ρ} {columns : List (String × String)}
    {tests : List (Condition (String × String) ν)} (opened : relations query.relation = some (.of shown rows))
    (alone : query.joins = [])
    (selected : query.columns.mapM (Scope.one query.relation (.of shown rows)).resolve = .ok columns)
    (resolved : query.conditions.mapM (Condition.resolve (Scope.one query.relation (.of shown rows))) = .ok tests) :
    query.run relations equals = .ok
      ((rows.filter fun row => ∀ test ∈ tests, test.eval equals (Relation.cell shown row) = some true).map fun row =>
        columns.map (Relation.cell shown row)) := by
  have known : query.scope relations = .ok (.one query.relation (.of shown rows)) := by
    simp only [scope, alone, openRelation, opened]
    rfl
  have conditions : query.tests.mapM (Condition.resolve (Scope.one query.relation (.of shown rows))) = .ok tests := by
    rw [Query.tests, alone, List.map_nil, List.nil_append, resolved]
  have held : (Scope.one query.relation (.of shown rows)).rows = rows.map (Relation.cell shown) := by
    simp only [Scope.one, Relation.of, List.map_map]
    rfl
  rw [run, known]
  simp only [bind, Except.bind, selected, conditions, held, List.filter_map, List.map_map]
  rfl

end

/-- A row is kept by exactly one of a condition and its negation when the condition is known there. -/
theorem Condition.one_kept_iff {γ ν : Type} {equals : ν → ν → Truth} {row : γ → ν} {condition : Condition γ ν} :
    Xor (condition.eval equals row = some true) ((Condition.not condition).eval equals row = some true) ↔
      condition.eval equals row ≠ none := by
  rw [Condition.eval]
  cases condition.eval equals row with
  | none => simp [Xor, Truth.not]
  | some truth => cases truth <;> simp [Xor, Truth.not]

/-! ### Names that resolve to nothing -/

theorem mapM_error {A B Err : Type} {f : A → Except Err B} {items : List A} {item : A} (member : item ∈ items)
    (fails : ∃ why, f item = .error why) : ∃ why, items.mapM f = .error why := by
  induction items with
  | nil => cases member
  | cons first rest ih =>
    rw [List.mapM_cons]
    rcases List.mem_cons.mp member with rfl | later
    · obtain ⟨why, failed⟩ := fails
      exact ⟨why, by rw [failed]; rfl⟩
    · obtain ⟨why, failed⟩ := ih later
      cases head : f first with
      | error why' => exact ⟨why', rfl⟩
      | ok result => exact ⟨why, by rw [failed]; rfl⟩

section
variable {ν : Type} {scope : Scope ν} {column : Column}

/-- A condition on a column that nothing in scope has does not resolve. -/
theorem Condition.resolve_unknown (unknown : scope.candidates column = []) {condition : Condition Column ν}
    (named : column ∈ condition.columns) : ∃ why, condition.resolve scope = .error why := by
  have missing : scope.resolve column = .error (.noSuchColumn column) := by rw [Scope.resolve, unknown]
  induction condition with
  | equal other value =>
    cases List.mem_singleton.mp named
    exact ⟨_, by rw [resolve, missing]; rfl⟩
  | equalColumns first second =>
    cases found : scope.resolve first with
    | error why => exact ⟨why, by rw [resolve, found]; rfl⟩
    | ok resolved =>
      rcases List.mem_pair.mp named with rfl | rfl
      · rw [missing] at found
        cases found
      · exact ⟨_, by rw [resolve, found, missing]; rfl⟩
  | not condition ih =>
    obtain ⟨why, failed⟩ := ih named
    exact ⟨why, by rw [resolve, failed]; rfl⟩

/-- Such a query fails, whatever the rows are. -/
theorem Query.run_unknown {relations : String → Option (Relation ν)} (equals : ν → ν → Truth) {query : Query ν}
    (known : query.scope relations = .ok scope) (unknown : scope.candidates column = [])
    {test : Condition Column ν} (member : test ∈ query.tests) (named : column ∈ test.columns) :
    ∃ why, query.run relations equals = .error why := by
  obtain ⟨why, failed⟩ := mapM_error member (Condition.resolve_unknown unknown named)
  rw [run, known]
  -- Whichever name is looked up first, the query fails before it reads a row.
  cases selected : query.columns.mapM scope.resolve with
  | error why' => exact ⟨why', by simp only [bind, Except.bind, selected]⟩
  | ok columns => exact ⟨why, by simp only [bind, Except.bind, selected, failed]⟩

end

end Relational

import FlumeViewSql.Execution.Calls

/-! Which calls an action makes on its way, and what they make known.

An action is a function on states, so the calls inside it are not part of its value. They
are found by following how it was put together; a part that is neither a call nor put
together must leave what is known as it was. Calls of a transaction that is rolled back are
not counted.
-/

set_option autoImplicit false

namespace Execution

variable {Err σ A C R α β : Type}

/-- Calls that return, each of which makes its own result known and nothing else. -/
structure Ledger (Err σ C R : Type) where
  call : C → Action Err σ R
  restore : σ → σ → σ
  Known : σ → C → R → Prop
  called : ∀ c s, ∃ r t, (call c).run s = ⟨.ok r, t⟩ ∧
    ∀ c' r', Known t c' r' ↔ Known s c' r' ∨ (c', r') = (c, r)
  restored : ∀ s t c r, Known (restore s t) c r ↔ Known s c r

namespace Ledger

variable (ledger : Ledger Err σ C R)

/-- Whatever the end, nothing becomes known and nothing is forgotten. -/
def Silent (x : Action Err σ α) : Prop := ∀ s c r, ledger.Known (x.run s).state c r ↔ ledger.Known s c r

/-- Run from `s`, the action makes the calls of the list, with these results. -/
inductive Traces : {α : Type} → Action Err σ α → σ → List (C × R) → Prop where
  | silent {α : Type} {x : Action Err σ α} {s : σ} (quiet : ledger.Silent x) : Traces x s []
  | call {c : C} {r : R} {s t : σ} (ended : (ledger.call c).run s = ⟨.ok r, t⟩) : Traces (ledger.call c) s [(c, r)]
  | returned {α β : Type} {x : Action Err σ α} {next : α → Action Err σ β} {a : α} {s t : σ}
      {early late : List (C × R)} (first : Traces x s early) (ended : x.run s = ⟨.ok a, t⟩)
      (rest : Traces (next a) t late) : Traces (x >>= next) s (early ++ late)
  | stopped {α β : Type} {x : Action Err σ α} {next : α → Action Err σ β} {why : Stop Err} {s t : σ}
      {log : List (C × R)} (first : Traces x s log) (ended : x.run s = ⟨.error why, t⟩) : Traces (x >>= next) s log
  | unwrap {α : Type} {x : Action Err σ α} {s : σ} {log : List (C × R)} (inner : Traces x s log) :
      Traces x.unwrap s log
  | committed {α : Type} {x : Action Err σ α} {a : α} {s t : σ} {log : List (C × R)} (inner : Traces x s log)
      (ended : x.run s = ⟨.ok a, t⟩) : Traces (Action.transaction ledger.restore x) s log
  | rolledBack {α : Type} {x : Action Err σ α} {why : Stop Err} {s t : σ} (ended : x.run s = ⟨.error why, t⟩) :
      Traces (Action.transaction ledger.restore x) s []

/-- Whatever the state, the calls that the action makes can be told. -/
def Traced (x : Action Err σ α) : Prop := ∀ s, ∃ log, ledger.Traces x s log

/-- The calls made by a sequence of actions, where one that stops does not end the sequence. -/
inductive TracesAll (perform : A → Action Err σ α) : List A → σ → List (C × R) → Prop where
  | nil {s : σ} : TracesAll perform [] s []
  | cons {item : A} {rest : List A} {s : σ} {early late : List (C × R)}
      (first : ledger.Traces (perform item) s early)
      (later : TracesAll perform rest ((perform item).run s).state late) :
      TracesAll perform (item :: rest) s (early ++ late)

variable {ledger}

theorem Silent.of_unchanged {x : Action Err σ α} (unchanged : ∀ s, (x.run s).state = s) : ledger.Silent x := by
  intro s c r
  rw [unchanged s]

/-- Behind the action, exactly what was known before and what its calls returned is known. -/
theorem Traces.known_iff {x : Action Err σ α} {s : σ} {log : List (C × R)} (traces : ledger.Traces x s log)
    (c : C) (r : R) : ledger.Known (x.run s).state c r ↔ ledger.Known s c r ∨ (c, r) ∈ log := by
  induction traces with
  | silent quiet => simpa using quiet _ c r
  | @call c' r' s t ended =>
    obtain ⟨result, after, ended', known⟩ := ledger.called c' s
    rw [ended] at ended'
    cases ended'
    rw [ended, List.mem_singleton]
    exact known c r
  | returned _ ended _ early late =>
    rw [ended] at early
    rw [Action.bind_of_ok _ ended, late, early, List.mem_append, or_assoc]
  | stopped _ ended early =>
    rw [ended] at early
    rw [Action.bind_of_error _ ended]
    exact early
  | @unwrap _ x s _ _ inner =>
    rcases Action.run_cases x s with ⟨a, t, ended⟩ | ⟨why, t, ended⟩ <;> rw [ended] at inner
    · rw [Action.run_unwrap_ok ended]
      exact inner
    · rw [Action.run_unwrap_error ended]
      exact inner
  | committed _ ended inner =>
    rw [ended] at inner
    rw [Action.run_transaction_ok ended]
    exact inner
  | rolledBack ended =>
    rw [Action.run_transaction_error ended]
    simpa using ledger.restored _ _ c r

namespace Traced

theorem silent {x : Action Err σ α} (quiet : ledger.Silent x) : ledger.Traced x := fun _ => ⟨[], .silent quiet⟩

theorem call (c : C) : ledger.Traced (ledger.call c) := by
  intro s
  obtain ⟨r, t, ended, -⟩ := ledger.called c s
  exact ⟨[(c, r)], .call ended⟩

theorem pure (a : α) : ledger.Traced (pure a : Action Err σ α) := silent (.of_unchanged fun _ => rfl)

theorem stop (why : Stop Err) : ledger.Traced (Action.stop why : Action Err σ α) :=
  silent (.of_unchanged fun _ => rfl)

theorem bind {x : Action Err σ α} {next : α → Action Err σ β} (first : ledger.Traced x)
    (rest : ∀ a, ledger.Traced (next a)) : ledger.Traced (x >>= next) := by
  intro s
  obtain ⟨early, traces⟩ := first s
  rcases Action.run_cases x s with ⟨a, t, ended⟩ | ⟨why, t, ended⟩
  · obtain ⟨late, traces'⟩ := rest a t
    exact ⟨early ++ late, traces.returned ended traces'⟩
  · exact ⟨early, traces.stopped ended⟩

theorem unwrap {x : Action Err σ α} (traced : ledger.Traced x) : ledger.Traced x.unwrap := by
  intro s
  obtain ⟨log, traces⟩ := traced s
  exact ⟨log, traces.unwrap⟩

theorem transaction {x : Action Err σ α} (traced : ledger.Traced x) :
    ledger.Traced (Action.transaction ledger.restore x) := by
  intro s
  obtain ⟨log, traces⟩ := traced s
  rcases Action.run_cases x s with ⟨a, t, ended⟩ | ⟨why, t, ended⟩
  · exact ⟨log, traces.committed ended⟩
  · exact ⟨[], .rolledBack ended⟩

end Traced

variable {perform : A → Action Err σ α}

theorem TracesAll.known_iff {items : List A} {s : σ} {log : List (C × R)}
    (traces : ledger.TracesAll perform items s log) (c : C) (r : R) :
    ledger.Known (Action.after perform items s) c r ↔ ledger.Known s c r ∨ (c, r) ∈ log := by
  induction traces with
  | nil => simp [Action.after]
  | cons first _ ih => rw [Action.after, ih, first.known_iff, List.mem_append, or_assoc]

theorem exists_tracesAll (traced : ∀ item, ledger.Traced (perform item)) (items : List A) (s : σ) :
    ∃ log, ledger.TracesAll perform items s log := by
  induction items generalizing s with
  | nil => exact ⟨[], .nil⟩
  | cons item rest ih =>
    obtain ⟨early, first⟩ := traced item s
    obtain ⟨late, later⟩ := ih ((perform item).run s).state
    exact ⟨early ++ late, .cons first later⟩

end Ledger

end Execution

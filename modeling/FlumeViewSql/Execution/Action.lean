import Mathlib.Order.Defs.Unbundled

/-! Stateful actions that keep their state when they stop.

An action that stops, by an error value on its way up or by a panic, still has a
final state: effects made before the stop are not undone unless a transaction
surrounds them. Postconditions therefore speak about both kinds of end.
-/

set_option autoImplicit false

namespace Execution

variable {Err σ α β A : Type}

/-- Why an action did not return: an error value being passed up, or a panic. -/
inductive Stop (Err : Type) where
  | err (why : Err)
  | panic
  deriving DecidableEq, Repr

structure Ended (Err σ α : Type) where
  outcome : Except (Stop Err) α
  state : σ

theorem Ended.eq_of_outcome {ended : Ended Err σ α} {outcome : Except (Stop Err) α}
    (same : ended.outcome = outcome) : ended = ⟨outcome, ended.state⟩ := by
  cases same
  rfl

/-- A computation over `σ`; the state after a stop is part of its meaning. -/
def Action (Err σ α : Type) := σ → Ended Err σ α

namespace Action

def run (x : Action Err σ α) (s : σ) : Ended Err σ α := x s

protected def pure (a : α) : Action Err σ α := fun s => ⟨.ok a, s⟩

protected def bind (x : Action Err σ α) (next : α → Action Err σ β) : Action Err σ β := fun s =>
  match x s with
  | ⟨.ok a, t⟩ => next a t
  | ⟨.error why, t⟩ => ⟨.error why, t⟩

instance : Monad (Action Err σ) where
  pure := Action.pure
  bind := Action.bind

def stop (why : Stop Err) : Action Err σ α := fun s => ⟨.error why, s⟩

/-- Rust's `unwrap` on a `Result`: an error value becomes a panic. -/
def unwrap (x : Action Err σ α) : Action Err σ α := fun s =>
  match x s with
  | ⟨.error (.err _), t⟩ => ⟨.error .panic, t⟩
  | ended => ended

/-- Rust's `or_else`: only error values are handled, a panic goes on. -/
def orElse (x : Action Err σ α) (handler : Err → Action Err σ α) : Action Err σ α := fun s =>
  match x s with
  | ⟨.error (.err why), t⟩ => handler why t
  | ended => ended

/-- A `Result` that is computed and then dropped. -/
def dropResult (x : Action Err σ α) : Action Err σ Unit := fun s =>
  match x s with
  | ⟨.error .panic, t⟩ => ⟨.error .panic, t⟩
  | ⟨_, t⟩ => ⟨.ok (), t⟩

/-- `unwrap` on a value computed without effects. -/
def unwrapOption : Option α → Action Err σ α
  | some a => Action.pure a
  | none => stop .panic

def forEach : List A → (A → Action Err σ Unit) → Action Err σ Unit
  | [], _ => Action.pure ()
  | item :: rest, body => (body item).bind fun _ => forEach rest body

/-- A scope whose effects are undone by `restore before after` when it stops. -/
def transaction (restore : σ → σ → σ) (x : Action Err σ α) : Action Err σ α := fun s =>
  match x s with
  | ⟨.ok a, t⟩ => ⟨.ok a, t⟩
  | ⟨.error why, t⟩ => ⟨.error why, restore s t⟩

theorem bind_eq (x : Action Err σ α) (next : α → Action Err σ β) : x >>= next = x.bind next := rfl

theorem pure_eq (a : α) : (pure a : Action Err σ α) = Action.pure a := rfl

theorem bind_of_ok {x : Action Err σ α} {s t : σ} {a : α} (next : α → Action Err σ β)
    (ended : x.run s = ⟨.ok a, t⟩) : (x >>= next).run s = (next a).run t := by
  simp only [run] at ended
  simp only [run, bind_eq, Action.bind, ended]

theorem bind_of_error {x : Action Err σ α} {s t : σ} {why : Stop Err} (next : α → Action Err σ β)
    (ended : x.run s = ⟨.error why, t⟩) : (x >>= next).run s = ⟨.error why, t⟩ := by
  simp only [run] at ended
  simp only [run, bind_eq, Action.bind, ended]

theorem run_cases (x : Action Err σ α) (s : σ) :
    (∃ a t, x.run s = ⟨.ok a, t⟩) ∨ ∃ why t, x.run s = ⟨.error why, t⟩ := by
  rcases x.run s with ⟨outcome, t⟩
  cases outcome with
  | ok a => exact .inl ⟨a, t, rfl⟩
  | error why => exact .inr ⟨why, t, rfl⟩

theorem forEach_cons (item : A) (rest : List A) (body : A → Action Err σ Unit) :
    forEach (item :: rest) body = (body item >>= fun _ => forEach rest body) := rfl

theorem forEach_append (first second : List A) (body : A → Action Err σ Unit) (s : σ) :
    (forEach (first ++ second) body).run s =
      (forEach first body >>= fun _ => forEach second body).run s := by
  induction first generalizing s with
  | nil => rfl
  | cons item rest ih =>
    rw [List.cons_append, forEach_cons, forEach_cons]
    rcases run_cases (body item) s with ⟨u, t, ended⟩ | ⟨why, t, ended⟩
    · rw [bind_of_ok _ ended, ih]
      rcases run_cases (forEach rest body) t with ⟨v, t', later⟩ | ⟨why, t', later⟩
      · rw [bind_of_ok _ later, bind_of_ok (t := t')]
        rw [bind_of_ok _ ended, later]
      · rw [bind_of_error _ later, bind_of_error (t := t')]
        rw [bind_of_ok _ ended, later]
    · rw [bind_of_error _ ended, bind_of_error _ (bind_of_error _ ended)]

/-! ### Postconditions -/

/-- Started in `s`, `x` returns with `post` or stops with `stopped`. -/
def Ends (x : Action Err σ α) (s : σ) (post : α → σ → Prop) (stopped : σ → Prop) : Prop :=
  match x.run s with
  | ⟨.ok a, t⟩ => post a t
  | ⟨.error _, t⟩ => stopped t

section
variable {x : Action Err σ α} {s : σ} {post : α → σ → Prop} {stopped : σ → Prop}

theorem Ends.of_ok {t : σ} {a : α} (ended : x.run s = ⟨.ok a, t⟩) (holds : post a t) :
    Ends x s post stopped := by
  simpa only [Ends, ended] using holds

theorem Ends.of_error {t : σ} {why : Stop Err} (ended : x.run s = ⟨.error why, t⟩) (holds : stopped t) :
    Ends x s post stopped := by
  simpa only [Ends, ended] using holds

theorem Ends.ok {t : σ} {a : α} (ends : Ends x s post stopped) (ended : x.run s = ⟨.ok a, t⟩) : post a t := by
  simpa only [Ends, ended] using ends

theorem Ends.error {t : σ} {why : Stop Err} (ends : Ends x s post stopped)
    (ended : x.run s = ⟨.error why, t⟩) : stopped t := by
  simpa only [Ends, ended] using ends

/-- What holds at either end holds of the final state. -/
theorem Ends.state {reached : σ → Prop} (ends : Ends x s (fun _ t => reached t) reached) :
    reached (x.run s).state := by
  rcases run_cases x s with ⟨a, t, ended⟩ | ⟨why, t, ended⟩ <;> rw [ended]
  · exact ends.ok ended
  · exact ends.error ended

/-- An action that cannot stop returns. -/
theorem Ends.returns (ends : Ends x s post fun _ => False) : ∃ a t, x.run s = ⟨.ok a, t⟩ ∧ post a t := by
  rcases run_cases x s with ⟨a, t, ended⟩ | ⟨why, t, ended⟩
  · exact ⟨a, t, ended, ends.ok ended⟩
  · exact (ends.error ended).elim

/-- Only the one run counts. -/
theorem Ends.of_run_eq {y : Action Err σ α} {t : σ} (same : x.run s = y.run t) (ends : Ends y t post stopped) :
    Ends x s post stopped := by
  rw [Ends, same]
  exact ends

theorem Ends.mono {post' : α → σ → Prop} {stopped' : σ → Prop} (ends : Ends x s post stopped)
    (returned : ∀ a t, post a t → post' a t) (failed : ∀ t, stopped t → stopped' t) :
    Ends x s post' stopped' := by
  rcases run_cases x s with ⟨a, t, ended⟩ | ⟨why, t, ended⟩
  · exact .of_ok ended (returned a t (ends.ok ended))
  · exact .of_error ended (failed t (ends.error ended))

/-- An action that cannot stop meets every condition on its stops. -/
theorem Ends.never (ends : Ends x s post fun _ => False) : Ends x s post stopped :=
  ends.mono (fun _ _ => id) fun _ => False.elim

theorem Ends.bind {middle : α → σ → Prop} {next : α → Action Err σ β} {post : β → σ → Prop}
    (first : Ends x s middle stopped) (rest : ∀ a t, middle a t → Ends (next a) t post stopped) :
    Ends (x >>= next) s post stopped := by
  rcases run_cases x s with ⟨a, t, ended⟩ | ⟨why, t, ended⟩
  · have later := rest a t (first.ok ended)
    simpa only [Ends, bind_of_ok next ended] using later
  · exact .of_error (bind_of_error next ended) (first.error ended)

theorem Ends.pure {a : α} (holds : post a s) : Ends (pure a : Action Err σ α) s post stopped := holds

theorem Ends.stop {why : Stop Err} (holds : stopped s) : Ends (stop why : Action Err σ α) s post stopped := holds

theorem Ends.bind_unwrapOption {value : Option A} {next : A → Action Err σ α}
    (present : ∀ a, value = some a → Ends (next a) s post stopped) (absent : value = none → stopped s) :
    Ends (unwrapOption value >>= next) s post stopped := by
  cases value with
  | some a => exact present a rfl
  | none => exact absent rfl

theorem run_unwrap_ok {t : σ} {a : α} (ended : x.run s = ⟨.ok a, t⟩) : x.unwrap.run s = ⟨.ok a, t⟩ := by
  simp only [run] at ended
  simp only [run, unwrap, ended]

theorem run_unwrap_error {t : σ} {why : Stop Err} (ended : x.run s = ⟨.error why, t⟩) :
    x.unwrap.run s = ⟨.error .panic, t⟩ := by
  simp only [run] at ended
  cases why <;> simp only [run, unwrap, ended]

theorem Ends.unwrap (ends : Ends x s post stopped) : Ends x.unwrap s post stopped := by
  rcases run_cases x s with ⟨a, t, ended⟩ | ⟨why, t, ended⟩
  · exact .of_ok (run_unwrap_ok ended) (ends.ok ended)
  · exact .of_error (run_unwrap_error ended) (ends.error ended)

/-- An action that returns only under `condition`, and stops only without it. -/
theorem Ends.returns_iff {x : Action Err σ Unit} {condition : Prop}
    (ends : Ends x s (fun _ _ => condition) fun _ => ¬ condition) : (x.run s).outcome = .ok () ↔ condition := by
  rcases run_cases x s with ⟨a, t, ended⟩ | ⟨why, t, ended⟩
  · have holds := ends.ok ended
    simp [ended, holds]
  · have fails := ends.error ended
    simp [ended, fails]

/-- The loop rule: `inv seen` holds after the elements of `seen`. -/
theorem Ends.forEach {items : List A} {body : A → Action Err σ Unit} (inv : List A → σ → Prop)
    (start : inv [] s)
    (step : ∀ seen item rest t, items = seen ++ item :: rest → inv seen t →
      Ends (body item) t (fun _ u => inv (seen ++ [item]) u) stopped) :
    Ends (forEach items body) s (fun _ t => inv items t) stopped := by
  -- The invariant is carried over what was seen, so the induction is on the rest.
  suffices general : ∀ seen rest t, items = seen ++ rest → inv seen t →
      Ends (Action.forEach rest body) t (fun _ u => inv items u) stopped from
    general [] items s rfl start
  intro seen rest
  induction rest generalizing seen with
  | nil =>
    intro t parts holds
    rw [List.append_nil] at parts
    exact Ends.pure (parts ▸ holds)
  | cons item rest ih =>
    intro t parts holds
    refine (step seen item rest t parts holds).bind fun _ u later => ?_
    exact ih (seen ++ [item]) u (by simpa using parts) later

theorem run_transaction_ok {restore : σ → σ → σ} {t : σ} {a : α} (ended : x.run s = ⟨.ok a, t⟩) :
    (transaction restore x).run s = ⟨.ok a, t⟩ := by
  simp only [run] at ended
  simp only [run, transaction, ended]

theorem run_transaction_error {restore : σ → σ → σ} {t : σ} {why : Stop Err}
    (ended : x.run s = ⟨.error why, t⟩) : (transaction restore x).run s = ⟨.error why, restore s t⟩ := by
  simp only [run] at ended
  simp only [run, transaction, ended]

theorem Ends.transaction {restore : σ → σ → σ} (ends : Ends x s post fun t => stopped (restore s t)) :
    Ends (transaction restore x) s post stopped := by
  rcases run_cases x s with ⟨a, t, ended⟩ | ⟨why, t, ended⟩
  · exact .of_ok (run_transaction_ok ended) (ends.ok ended)
  · exact .of_error (run_transaction_error ended) (ends.error ended)

end

/-! ### What every run preserves -/

/-- Whatever the end, the final state is above the initial one. -/
def Within (order : σ → σ → Prop) (x : Action Err σ α) : Prop := ∀ s, order s (x.run s).state

section
variable {order : σ → σ → Prop}

theorem Within.ends {x : Action Err σ α} (within : Within order x) (s : σ) :
    Ends x s (fun _ t => order s t) (order s) := by
  have reached := within s
  rcases run_cases x s with ⟨a, t, ended⟩ | ⟨why, t, ended⟩ <;> rw [ended] at reached
  · exact .of_ok ended reached
  · exact .of_error ended reached

theorem Within.of_ends {x : Action Err σ α} (ends : ∀ s, Ends x s (fun _ t => order s t) (order s)) :
    Within order x := fun s => (ends s).state

theorem Within.unwrap {x : Action Err σ α} (within : Within order x) : Within order x.unwrap :=
  .of_ends fun s => (within.ends s).unwrap

theorem Within.dropResult {x : Action Err σ α} (within : Within order x) : Within order x.dropResult := by
  intro s
  have reached := within s
  rcases run_cases x s with ⟨a, t, ended⟩ | ⟨why, t, ended⟩ <;> rw [ended] at reached <;> simp only [run] at ended
  · simpa only [run, Action.dropResult, ended] using reached
  · cases why <;> simpa only [run, Action.dropResult, ended] using reached

theorem Within.transaction {restore : σ → σ → σ} (restored : ∀ s t, order s (restore s t))
    {x : Action Err σ α} (within : Within order x) : Within order (transaction restore x) :=
  .of_ends fun s => .transaction ((within.ends s).mono (fun _ _ below => below) fun t _ => restored s t)

variable [IsPreorder σ order]

theorem Within.pure (a : α) : Within order (pure a : Action Err σ α) := fun s => refl_of order s

theorem Within.stop (why : Stop Err) : Within order (stop why : Action Err σ α) := fun s => refl_of order s

theorem Within.bind {x : Action Err σ α} {next : α → Action Err σ β} (first : Within order x)
    (rest : ∀ a, Within order (next a)) : Within order (x >>= next) := by
  refine .of_ends fun s => (first.ends s).bind fun a t below => ?_
  exact ((rest a).ends t).mono (fun _ u later => trans_of order below later)
    (fun u later => trans_of order below later)

theorem Within.orElse {x : Action Err σ α} {handler : Err → Action Err σ α} (within : Within order x)
    (handles : ∀ why, Within order (handler why)) : Within order (x.orElse handler) := by
  intro s
  have reached := within s
  rcases run_cases x s with ⟨a, t, ended⟩ | ⟨why, t, ended⟩ <;> rw [ended] at reached <;> simp only [run] at ended
  · simpa only [run, Action.orElse, ended] using reached
  · cases why with
    | err why => simpa only [run, Action.orElse, ended] using trans_of order reached (handles why t)
    | panic => simpa only [run, Action.orElse, ended] using reached

theorem Within.forEach (items : List A) {body : A → Action Err σ Unit}
    (each : ∀ item, Within order (body item)) : Within order (forEach items body) := by
  induction items with
  | nil => exact Within.pure ()
  | cons item rest ih => exact (each item).bind fun _ => ih

end

/-! ### Two runs -/

/-- From related states the action has one outcome, and related final states. -/
def Respects (same : σ → σ → Prop) (x : Action Err σ α) : Prop :=
  ∀ s t, same s t → (x.run s).outcome = (x.run t).outcome ∧ same (x.run s).state (x.run t).state

section
variable {same : σ → σ → Prop}

theorem Respects.pure (a : α) : Respects same (pure a : Action Err σ α) := fun _ _ related => ⟨rfl, related⟩

theorem Respects.stop (why : Stop Err) : Respects same (stop why : Action Err σ α) :=
  fun _ _ related => ⟨rfl, related⟩

theorem Respects.ok {x : Action Err σ α} (respects : Respects same x) {s t s' : σ} {a : α}
    (related : same s t) (ended : x.run s = ⟨.ok a, s'⟩) : ∃ t', x.run t = ⟨.ok a, t'⟩ ∧ same s' t' := by
  obtain ⟨outcome, states⟩ := respects s t related
  rw [ended] at outcome states
  exact ⟨(x.run t).state, Ended.eq_of_outcome outcome.symm, states⟩

theorem Respects.error {x : Action Err σ α} (respects : Respects same x) {s t s' : σ} {why : Stop Err}
    (related : same s t) (ended : x.run s = ⟨.error why, s'⟩) :
    ∃ t', x.run t = ⟨.error why, t'⟩ ∧ same s' t' := by
  obtain ⟨outcome, states⟩ := respects s t related
  rw [ended] at outcome states
  exact ⟨(x.run t).state, Ended.eq_of_outcome outcome.symm, states⟩

theorem Respects.bind {x : Action Err σ α} {next : α → Action Err σ β} (first : Respects same x)
    (rest : ∀ a, Respects same (next a)) : Respects same (x >>= next) := by
  intro s t related
  rcases run_cases x s with ⟨a, s', ended⟩ | ⟨why, s', ended⟩
  · obtain ⟨t', other, related'⟩ := first.ok related ended
    rw [bind_of_ok next ended, bind_of_ok next other]
    exact rest a s' t' related'
  · obtain ⟨t', other, related'⟩ := first.error related ended
    rw [bind_of_error next ended, bind_of_error next other]
    exact ⟨rfl, related'⟩

theorem Respects.unwrap {x : Action Err σ α} (respects : Respects same x) : Respects same x.unwrap := by
  intro s t related
  rcases run_cases x s with ⟨a, s', ended⟩ | ⟨why, s', ended⟩
  · obtain ⟨t', other, related'⟩ := respects.ok related ended
    rw [run_unwrap_ok ended, run_unwrap_ok other]
    exact ⟨rfl, related'⟩
  · obtain ⟨t', other, related'⟩ := respects.error related ended
    rw [run_unwrap_error ended, run_unwrap_error other]
    exact ⟨rfl, related'⟩

theorem Respects.forEach (items : List A) {body : A → Action Err σ Unit}
    (each : ∀ item, Respects same (body item)) : Respects same (forEach items body) := by
  induction items with
  | nil => exact Respects.pure ()
  | cons item rest ih => exact (each item).bind fun _ => ih

theorem Respects.transaction {restore : σ → σ → σ}
    (restored : ∀ s t s' t', same s t → same (restore s s') (restore t t'))
    {x : Action Err σ α} (respects : Respects same x) : Respects same (transaction restore x) := by
  intro s t related
  rcases run_cases x s with ⟨a, s', ended⟩ | ⟨why, s', ended⟩
  · obtain ⟨t', other, related'⟩ := respects.ok related ended
    rw [run_transaction_ok ended, run_transaction_ok other]
    exact ⟨rfl, related'⟩
  · obtain ⟨t', other, related'⟩ := respects.error related ended
    rw [run_transaction_error ended, run_transaction_error other]
    exact ⟨rfl, restored s t s' t' related⟩

end

end Action

end Execution

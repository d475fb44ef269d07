import FlumeViewSql.Execution.Action

/-! Sequences of calls on one state, where a call that stops does not end the sequence. -/

set_option autoImplicit false

namespace Execution

namespace Action

variable {Err σ α A : Type} (perform : A → Action Err σ α)

/-- The state after all calls. -/
def after : List A → σ → σ
  | [], s => s
  | call :: rest, s => after rest ((perform call).run s).state

/-- The calls that returned, in order. -/
def returned : List A → σ → List A
  | [], _ => []
  | call :: rest, s =>
    match (perform call).run s with
    | ⟨.ok _, t⟩ => call :: returned rest t
    | ⟨.error _, t⟩ => returned rest t

theorem after_append (first second : List A) (s : σ) :
    after perform (first ++ second) s = after perform second (after perform first s) := by
  induction first generalizing s with
  | nil => rfl
  | cons call rest ih => exact ih _

theorem returned_append (first second : List A) (s : σ) :
    returned perform (first ++ second) s =
      returned perform first s ++ returned perform second (after perform first s) := by
  induction first generalizing s with
  | nil => rfl
  | cons call rest ih =>
    rcases run_cases (perform call) s with ⟨a, t, ended⟩ | ⟨why, t, ended⟩
    · simp only [List.cons_append, returned, after, ended, ih]
    · simp only [List.cons_append, returned, after, ended, ih]

theorem returned_sublist (calls : List A) (s : σ) : (returned perform calls s).Sublist calls := by
  induction calls generalizing s with
  | nil => exact .slnil
  | cons call rest ih =>
    rcases run_cases (perform call) s with ⟨a, t, ended⟩ | ⟨why, t, ended⟩
    · simp only [returned, ended]
      exact (ih t).cons_cons call
    · simp only [returned, ended]
      exact (ih t).cons call

variable {perform}

/-- What every call preserves, a sequence of calls preserves. -/
theorem after_within {order : σ → σ → Prop} [IsPreorder σ order] (within : ∀ call, Within order (perform call))
    (calls : List A) (s : σ) : order s (after perform calls s) := by
  induction calls generalizing s with
  | nil => exact refl_of order s
  | cons call rest ih => exact trans_of order (within call s) (ih _)

/-- The invariant rule: `inv done` holds when exactly the calls of `done` have returned. -/
theorem calls_invariant (inv : List A → σ → Prop) (calls : List A) {s : σ} (start : inv [] s)
    (step : ∀ done call s, inv done s → Ends (perform call) s (fun _ t => inv (done ++ [call]) t) (inv done)) :
    inv (returned perform calls s) (after perform calls s) := by
  -- `done` grows from left to right while the calls are consumed.
  suffices general : ∀ done s, inv done s → inv (done ++ returned perform calls s) (after perform calls s) from
    general [] s start
  induction calls with
  | nil =>
    intro done s holds
    simpa [returned, after] using holds
  | cons call rest ih =>
    intro done s holds
    have ends := step done call s holds
    rcases run_cases (perform call) s with ⟨a, t, ended⟩ | ⟨why, t, ended⟩
    · have reached := ih (done ++ [call]) t (ends.ok ended)
      simp only [returned, after, ended]
      rwa [List.append_assoc, List.singleton_append] at reached
    · simp only [returned, after, ended]
      exact ih done t (ends.error ended)

end Action

end Execution

import FlumeViewSql.Execution.Action

/-! Actions that agree on every run that returns.

They may stop differently: a transaction takes back what its body leaves when it stops. Where
only returning counts, transactions can be dropped and loops over groups be run item by item.
-/

set_option autoImplicit false

namespace Execution

variable {Err σ α β A B : Type}

namespace Action

/-- From any state the two actions return alike: the same value, and the same final state. -/
def ReturnsAs (x y : Action Err σ α) : Prop := ∀ s a t, x.run s = ⟨.ok a, t⟩ ↔ y.run s = ⟨.ok a, t⟩

theorem bind_run_ok_iff {x : Action Err σ α} {next : α → Action Err σ β} {s t : σ} {b : β} :
    (x >>= next).run s = ⟨.ok b, t⟩ ↔ ∃ a u, x.run s = ⟨.ok a, u⟩ ∧ (next a).run u = ⟨.ok b, t⟩ := by
  rcases run_cases x s with ⟨a, u, ended⟩ | ⟨why, u, ended⟩
  · rw [bind_of_ok next ended]
    constructor
    · exact fun later => ⟨a, u, ended, later⟩
    · rintro ⟨a', u', ended', later⟩
      cases ended.symm.trans ended'
      exact later
  · rw [bind_of_error next ended]
    constructor
    · intro returned
      cases returned
    · rintro ⟨a', u', ended', -⟩
      cases ended.symm.trans ended'

namespace ReturnsAs

theorem refl (x : Action Err σ α) : ReturnsAs x x := fun _ _ _ => Iff.rfl

theorem symm {x y : Action Err σ α} (same : ReturnsAs x y) : ReturnsAs y x := fun s a t => (same s a t).symm

theorem trans {x y z : Action Err σ α} (first : ReturnsAs x y) (second : ReturnsAs y z) : ReturnsAs x z :=
  fun s a t => (first s a t).trans (second s a t)

/-- What holds of either end of one, the state of a stop apart, holds of the other. -/
theorem ends {x y : Action Err σ α} (same : ReturnsAs x y) {s : σ} {post : α → σ → Prop} {stopped : Prop}
    (ends : Ends y s post fun _ => stopped) : Ends x s post fun _ => stopped := by
  rcases run_cases x s with ⟨a, t, ended⟩ | ⟨why, t, ended⟩
  · exact .of_ok ended (ends.ok ((same s a t).mp ended))
  · rcases run_cases y s with ⟨a, t', ended'⟩ | ⟨why', t', ended'⟩
    · cases ended.symm.trans ((same s a t').mpr ended')
    · exact .of_error ended (ends.error ended')

theorem bind {x y : Action Err σ α} {next next' : α → Action Err σ β} (first : ReturnsAs x y)
    (rest : ∀ a, ReturnsAs (next a) (next' a)) : ReturnsAs (x >>= next) (y >>= next') := by
  intro s b t
  rw [bind_run_ok_iff, bind_run_ok_iff]
  apply exists_congr
  intro a
  apply exists_congr
  intro u
  exact and_congr (first s a u) (rest a u b t)

/-- A transaction that is committed has the effect of its body. -/
theorem transaction (restore : σ → σ → σ) (x : Action Err σ α) : ReturnsAs (transaction restore x) x := by
  intro s a t
  rcases run_cases x s with ⟨a', u, ended⟩ | ⟨why, u, ended⟩
  · rw [run_transaction_ok ended, ended]
  · rw [run_transaction_error ended, ended]
    constructor
    · intro returned
      cases returned
    · intro returned
      cases returned

theorem forEach_append (first second : List A) (body : A → Action Err σ Unit) :
    ReturnsAs (forEach (first ++ second) body) (forEach first body >>= fun _ => forEach second body) := by
  intro s u t
  rw [Action.forEach_append]

/-- Calls that return as loops over their items return, one after another, as one loop over all items. -/
theorem forEach_flatMap {perform : A → Action Err σ Unit} {items : A → List B} {body : B → Action Err σ Unit}
    (each : ∀ call, ReturnsAs (perform call) (forEach (items call) body)) (calls : List A) :
    ReturnsAs (forEach calls perform) (forEach (calls.flatMap items) body) := by
  induction calls with
  | nil => exact refl _
  | cons call rest ih =>
    rw [forEach_cons, List.flatMap_cons]
    exact ((each call).bind fun _ => ih).trans (forEach_append (items call) _ body).symm

end ReturnsAs

end Action

end Execution

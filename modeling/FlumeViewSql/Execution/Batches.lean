import FlumeViewSql.Execution.Action
import Mathlib.Data.List.Infix

/-! A sequence cut into batches. -/

set_option autoImplicit false

namespace Execution

variable {A : Type}

/-- itertools' `chunks(size)`: the last batch may be shorter. -/
def chunks (size : Nat) (items : List A) : List (List A) :=
  (List.range ((items.length + size - 1) / size)).map fun number => (items.drop (number * size)).take size

theorem flatten_batches (size count : Nat) (items : List A) :
    ((List.range count).map fun number => (items.drop (number * size)).take size).flatten =
      items.take (count * size) := by
  induction count with
  | zero => simp
  | succ count ih =>
    rw [List.range_succ, List.map_append, List.flatten_append, ih, List.map_singleton, List.flatten_singleton,
      Nat.succ_mul, List.take_add]

theorem flatten_chunks {size : Nat} (positive : 0 < size) (items : List A) : (chunks size items).flatten = items := by
  rw [chunks, flatten_batches]
  apply List.take_of_length_le
  have bound := Nat.lt_mul_div_succ (items.length + size - 1) positive
  rw [Nat.mul_comm, Nat.succ_mul] at bound
  omega

/-- The batches done when a run over them is cut short hold a beginning of the sequence. -/
theorem flatten_take_chunks {size : Nat} (positive : 0 < size) (items : List A) (count : Nat) :
    ((chunks size items).take count).flatten <+: items := by
  refine ⟨((chunks size items).drop count).flatten, ?_⟩
  rw [← List.flatten_append, List.take_append_drop, flatten_chunks positive]

theorem chunks_nil (size : Nat) : chunks size ([] : List A) = [] := by
  have none : (size - 1) / size = 0 := by
    cases size with
    | zero => rfl
    | succ size => exact Nat.div_eq_of_lt (by omega)
  simp [chunks, none]

/-- The first batch starts with the first item. -/
theorem chunks_cons {size : Nat} (positive : 0 < size) (item : A) (rest : List A) :
    ∃ more others, chunks size (item :: rest) = (item :: more) :: others := by
  have nonempty : ((item :: rest).length + size - 1) / size ≠ 0 :=
    (Nat.div_pos (by rw [List.length_cons]; omega) positive).ne'
  obtain ⟨count, counted⟩ := Nat.exists_eq_succ_of_ne_zero nonempty
  obtain ⟨size, rfl⟩ := Nat.exists_eq_succ_of_ne_zero positive.ne'
  rw [chunks, counted, List.range_succ_eq_map, List.map_cons, Nat.zero_mul, List.drop_zero, List.take_succ_cons]
  exact ⟨_, _, rfl⟩

/-- Every batch but the last one is full, so the number of batches done tells where the next one starts. -/
theorem chunks_parts {size : Nat} {items : List A} {seen others : List (List A)} {batch : List A}
    (parts : chunks size items = seen ++ batch :: others) :
    seen.flatten = items.take (seen.length * size) ∧ batch = (items.drop (seen.length * size)).take size ∧
      seen.length * size < items.length := by
  have lengths := congrArg List.length parts
  simp only [chunks, List.length_map, List.length_range, List.length_append, List.length_cons] at lengths
  have here : seen.length < (items.length + size - 1) / size := by omega
  refine ⟨?_, ?_, ?_⟩
  · have begins := congrArg (List.take seen.length) parts
    rw [List.take_left, chunks, ← List.map_take, List.take_range, Nat.min_eq_left (by omega)] at begins
    have flat := flatten_batches size seen.length items
    rwa [begins] at flat
  · have found := congrArg (fun batches => batches[seen.length]?) parts
    simpa [chunks, here] using found.symm
  · have positive : 0 < size := by
      apply Nat.pos_of_ne_zero
      rintro rfl
      rw [Nat.div_zero] at here
      exact Nat.not_lt_zero _ here
    have room := (Nat.le_div_iff_mul_le positive).mp (Nat.succ_le_of_lt here)
    rw [Nat.succ_mul] at room
    omega

/-- The rule for batches that are done as a whole or not at all, over items of which the first `limit`
can be done: a loop that stops has done the full batches in front of the limit. -/
theorem Action.Ends.forEach_chunks {Err σ : Type} {size limit : Nat} (positive : 0 < size) {items : List A}
    {perform : List A → Action Err σ Unit} (inv : Nat → σ → Prop) {s : σ} (start : inv 0 s)
    (step : ∀ done batch t, done + batch.length ≤ items.length → batch <+: items.drop done → inv done t →
      Action.Ends (perform batch) t (fun _ u => done + batch.length ≤ limit ∧ inv (done + batch.length) u)
        (fun u => limit < done + batch.length ∧ inv done u)) :
    Action.Ends (Action.forEach (chunks size items) perform) s
      (fun _ t => items.length ≤ limit ∧ inv items.length t)
      (fun t => limit < items.length ∧ inv (limit / size * size) t) := by
  have ends : Action.Ends (Action.forEach (chunks size items) perform) s
      (fun _ t => (chunks size items).flatten.length ≤ limit ∧ inv (chunks size items).flatten.length t)
      (fun t => limit < items.length ∧ inv (limit / size * size) t) := by
    apply Action.Ends.forEach fun seen t => seen.flatten.length ≤ limit ∧ inv seen.flatten.length t
    · exact ⟨Nat.zero_le limit, start⟩
    · intro seen batch others t parts ⟨within, reached⟩
      obtain ⟨before, here, room⟩ := chunks_parts parts
      have counted : seen.flatten.length = seen.length * size := by
        rw [before, List.length_take, Nat.min_eq_left room.le]
      rw [counted] at within reached
      have begins : batch <+: items.drop (seen.length * size) := here ▸ List.take_prefix _ _
      have short : batch.length ≤ size := here ▸ List.length_take_le _ _
      have fits : seen.length * size + batch.length ≤ items.length := by
        have bound := begins.length_le
        rw [List.length_drop] at bound
        omega
      apply (step _ batch t fits begins reached).mono
      · intro _ u later
        rw [List.flatten_append, List.length_append, counted, List.flatten_singleton]
        exact later
      · intro u ⟨beyond, kept⟩
        -- The limit lies in the batch that fails.
        have place : limit / size = seen.length := by
          apply Nat.div_eq_of_lt_le
          · exact within
          · rw [Nat.succ_mul]
            omega
        rw [place]
        exact ⟨by omega, kept⟩
  rwa [flatten_chunks positive] at ends

end Execution

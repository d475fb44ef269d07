import FlumeViewSql.Execution.Calls
import Mathlib.Data.List.Induction

/-! Actions that do what an abstract machine says.

A machine has no errors and no panics: it accepts a call or refuses it, and says what either
leaves. An action that simulates it returns exactly when the machine accepts, so a sequence of
actions can be followed on the machine alone, calls that stop included.
-/

set_option autoImplicit false

namespace Execution

variable {Err σ α A B S : Type}

structure Machine (A S : Type) where
  /-- The state behind a call; `none` refuses it. -/
  accept : S → A → Option S
  /-- What a refused call leaves. -/
  refuse : S → A → S

namespace Machine

def next (machine : Machine A S) (s : S) (call : A) : S := (machine.accept s call).getD (machine.refuse s call)

/-- The state after all calls, those that are refused included. -/
def run (machine : Machine A S) (calls : List A) (s : S) : S := calls.foldl machine.next s

/-- The calls that are accepted, in order. -/
def accepted (machine : Machine A S) : List A → S → List A
  | [], _ => []
  | call :: rest, s =>
    match machine.accept s call with
    | some t => call :: accepted machine rest t
    | none => accepted machine rest (machine.refuse s call)

/-- The calls one after another, if none is refused. -/
def acceptAll (machine : Machine A S) (calls : List A) (s : S) : Option S := calls.foldlM machine.accept s

/-- The machine for calls of one kind. -/
def comap (machine : Machine A S) (kind : B → A) : Machine B S where
  accept s call := machine.accept s (kind call)
  refuse s call := machine.refuse s (kind call)

/-- How many calls are accepted before the first one that is refused. -/
def acceptCount (machine : Machine A S) : List A → S → Nat
  | [], _ => 0
  | call :: rest, s =>
    match machine.accept s call with
    | some t => acceptCount machine rest t + 1
    | none => 0

/-- Whole lists of calls, each of which is accepted as a whole or leaves nothing. -/
def batched (machine : Machine A S) : Machine (List A) S where
  accept s calls := machine.acceptAll calls s
  refuse s _ := s

variable {machine : Machine A S} {s t : S} {call : A}

theorem next_of_accept (accepts : machine.accept s call = some t) : machine.next s call = t := by
  rw [next, accepts, Option.getD_some]

theorem next_of_refuse (refuses : machine.accept s call = none) : machine.next s call = machine.refuse s call := by
  rw [next, refuses, Option.getD_none]

theorem run_cons (calls : List A) : machine.run (call :: calls) s = machine.run calls (machine.next s call) := rfl

theorem run_map (kind : B → A) (calls : List B) : machine.run (calls.map kind) s = (machine.comap kind).run calls s :=
  List.foldl_map

theorem accepted_map (kind : B → A) (calls : List B) :
    machine.accepted (calls.map kind) s = ((machine.comap kind).accepted calls s).map kind := by
  induction calls generalizing s with
  | nil => rfl
  | cons call rest ih =>
    have same : (machine.comap kind).accept s call = machine.accept s (kind call) := rfl
    rw [List.map_cons]
    unfold accepted
    rw [same]
    cases machine.accept s (kind call) with
    | some t => exact congrArg _ ih
    | none => exact ih

theorem acceptAll_nil : machine.acceptAll [] s = some s := rfl

theorem acceptAll_concat (calls : List A) :
    machine.acceptAll (calls ++ [call]) s = (machine.acceptAll calls s).bind fun t => machine.accept t call := by
  unfold acceptAll
  rw [List.foldlM_append]
  cases calls.foldlM machine.accept s with
  | none => rfl
  | some t => simp

/-- A call that is refused is refused whatever comes behind it. -/
theorem acceptAll_append_none {before after : List A} (refuses : machine.acceptAll before s = none) :
    machine.acceptAll (before ++ after) s = none := by
  unfold acceptAll at refuses ⊢
  rw [List.foldlM_append, refuses]
  rfl

theorem acceptAll_cons (rest : List A) :
    machine.acceptAll (call :: rest) s = (machine.accept s call).bind (machine.acceptAll rest) := List.foldlM_cons

theorem acceptCount_le (calls : List A) (s : S) : machine.acceptCount calls s ≤ calls.length := by
  induction calls generalizing s with
  | nil => exact Nat.le_refl 0
  | cons call rest ih =>
    unfold acceptCount
    cases machine.accept s call with
    | some t => exact Nat.succ_le_succ (ih t)
    | none => exact Nat.zero_le _

/-- The beginnings of which every call is accepted are those in front of the first refusal. -/
theorem acceptAll_take_isSome_iff {calls : List A} {count : Nat} (bound : count ≤ calls.length) :
    (machine.acceptAll (calls.take count) s).isSome ↔ count ≤ machine.acceptCount calls s := by
  induction calls generalizing s count with
  | nil =>
    obtain rfl : count = 0 := Nat.le_zero.mp bound
    simp [acceptAll_nil]
  | cons call rest ih =>
    cases count with
    | zero => simp [acceptAll_nil]
    | succ count =>
      rw [List.take_succ_cons, acceptAll_cons, acceptCount]
      cases machine.accept s call with
      | some t => exact (ih (Nat.le_of_succ_le_succ bound)).trans Nat.succ_le_succ_iff.symm
      | none => simp

/-- The invariant rule: what every call preserves, accepted or refused, a run preserves. -/
theorem run_invariant {inv : S → Prop} (accepts : ∀ s t call, inv s → machine.accept s call = some t → inv t)
    (refuses : ∀ s call, inv s → machine.accept s call = none → inv (machine.refuse s call)) (calls : List A)
    (start : inv s) : inv (machine.run calls s) := by
  induction calls generalizing s with
  | nil => exact start
  | cons call rest ih =>
    apply ih
    cases answer : machine.accept s call with
    | some t => exact next_of_accept answer ▸ accepts s t call start answer
    | none => exact next_of_refuse answer ▸ refuses s call start answer

/-- So do calls that are all accepted. -/
theorem acceptAll_invariant {inv : S → Prop} (accepts : ∀ s t call, inv s → machine.accept s call = some t → inv t)
    {calls : List A} (all : machine.acceptAll calls s = some t) (start : inv s) : inv t := by
  induction calls using List.reverseRecOn generalizing t with
  | nil =>
    cases all
    exact start
  | append_singleton calls call ih =>
    rw [acceptAll_concat, Option.bind_eq_some_iff] at all
    obtain ⟨middle, before, last⟩ := all
    exact accepts middle t call (ih before) last

/-! ### Replay -/

/-- A second state can follow a first one without the calls that are refused. -/
structure Follows (machine : Machine A S) (related : S → S → Prop) : Prop where
  accepts : ∀ s t call s', related s t → machine.accept s call = some s' →
    ∃ t', machine.accept t call = some t' ∧ related s' t'
  refuses : ∀ s t call, related s t → machine.accept s call = none → related (machine.refuse s call) t

namespace Follows

variable {machine : Machine A S} {related : S → S → Prop} {s t : S} (follows : machine.Follows related)
include follows

theorem acceptAll {calls : List A} {s' : S} (here : related s t) (accepted : machine.acceptAll calls s = some s') :
    ∃ t', machine.acceptAll calls t = some t' ∧ related s' t' := by
  induction calls generalizing s t with
  | nil =>
    cases accepted
    exact ⟨t, acceptAll_nil, here⟩
  | cons call rest ih =>
    rw [acceptAll_cons, Option.bind_eq_some_iff] at accepted
    obtain ⟨middle, first, later⟩ := accepted
    obtain ⟨middle', first', there⟩ := follows.accepts s t call middle here first
    obtain ⟨t', later', final⟩ := ih there later
    exact ⟨t', by rw [acceptAll_cons, first', Option.bind_some, later'], final⟩

theorem batched : machine.batched.Follows related where
  accepts _ _ _ _ here accepted := follows.acceptAll here accepted
  refuses _ _ _ here _ := here

/-- The calls that a run accepts are all accepted again when they are made alone. -/
theorem replay (calls : List A) (here : related s t) :
    related (machine.run calls s) (machine.run (machine.accepted calls s) t) ∧
      machine.accepted (machine.accepted calls s) t = machine.accepted calls s := by
  induction calls generalizing s t with
  | nil => exact ⟨here, rfl⟩
  | cons call rest ih =>
    cases answer : machine.accept s call with
    | some s' =>
      obtain ⟨t', again, there⟩ := follows.accepts s t call s' here answer
      obtain ⟨final, same⟩ := ih there
      simp only [accepted, answer, run_cons, next_of_accept answer, next_of_accept again, again]
      exact ⟨final, congrArg _ same⟩
    | none =>
      simp only [accepted, answer, run_cons, next_of_refuse answer]
      exact ih (follows.refuses s t call here answer)

end Follows

/-! ### Simulation -/

/-- From related states the action returns exactly when the machine accepts, and what it leaves
is related to what the machine says, in either case. -/
def Simulates (machine : Machine A S) (related : σ → S → Prop) (perform : A → Action Err σ Unit) : Prop :=
  ∀ call s t, related s t → Action.Ends (perform call) s
    (fun _ s' => ∃ t', machine.accept t call = some t' ∧ related s' t')
    (fun s' => machine.accept t call = none ∧ related s' (machine.refuse t call))

namespace Simulates

variable {machine : Machine A S} {related : σ → S → Prop} {perform : A → Action Err σ Unit} {s : σ} {t : S}
  (simulates : machine.Simulates related perform)
include simulates

/-- A sequence of calls is followed by the run of the machine, which accepts those that return. -/
theorem calls (calls : List A) (start : related s t) :
    related (Action.after perform calls s) (machine.run calls t) ∧
      Action.returned perform calls s = machine.accepted calls t := by
  induction calls generalizing s t with
  | nil => exact ⟨start, rfl⟩
  | cons call rest ih =>
    have ends := simulates call s t start
    rcases Action.run_cases (perform call) s with ⟨_, s', ended⟩ | ⟨why, s', ended⟩
    · obtain ⟨t', accepts, now⟩ := ends.ok ended
      obtain ⟨final, returned⟩ := ih now
      simp only [Action.after, Action.returned, accepted, ended, accepts, run_cons, next_of_accept accepts]
      exact ⟨final, congrArg _ returned⟩
    · obtain ⟨refuses, now⟩ := ends.error ended
      simp only [Action.after, Action.returned, accepted, ended, refuses, run_cons, next_of_refuse refuses]
      exact ih now

/-- A loop returns exactly when the machine accepts every call. -/
theorem forEach (calls : List A) (start : related s t) : Action.Ends (Action.forEach calls perform) s
    (fun _ s' => ∃ t', machine.acceptAll calls t = some t' ∧ related s' t')
    (fun _ => machine.acceptAll calls t = none) := by
  apply Action.Ends.forEach fun seen now => ∃ t', machine.acceptAll seen t = some t' ∧ related now t'
  · exact ⟨t, acceptAll_nil, start⟩
  · intro seen call rest now parts ⟨t', before, here⟩
    have step : machine.acceptAll (seen ++ [call]) t = machine.accept t' call := by
      rw [acceptAll_concat, before, Option.bind_some]
    apply (simulates call now t' here).mono
    · exact fun _ later ⟨t'', accepts, there⟩ => ⟨t'', step.trans accepts, there⟩
    · intro later ⟨refuses, _⟩
      rw [parts, List.append_cons]
      exact acceptAll_append_none (step.trans refuses)

/-- In a transaction, it simulates the machine for whole lists. -/
theorem batched {restore : σ → σ → σ} (restored : ∀ s s' t, related s t → related (restore s s') t) :
    machine.batched.Simulates related fun calls => Action.transaction restore (Action.forEach calls perform) := by
  intro calls s t start
  apply Action.Ends.transaction
  apply (simulates.forEach calls start).mono
  · exact fun _ _ => id
  · exact fun s' refuses => ⟨refuses, restored s s' t start⟩

end Simulates

end Machine

end Execution

import Packfile.Executor.Basic

/-!
# Sequences of calls

A caller that stops at the first refusal makes some front part of the calls that it has planned. How
each planned call would be answered depends only on the calls before it, so the call at which it
stops can be named without running the caller: it is the first one that is answered with an error
after all earlier ones have been made.
-/

namespace Packfile.Executor

variable {σ : Type} {executor : Executor σ} {state : σ} {call : Call} {calls rest : List Call}
variable {i : Nat} {e : RunnerError}

/-- The executor after calls have been made. -/
def stateAfter (executor : Executor σ) (state : σ) (calls : List Call) : σ :=
  calls.foldl (fun current call => (executor current call).state) state

/-- How the call at a position is answered once the calls before it have been made. -/
def answer (executor : Executor σ) (state : σ) (calls : List Call) (i : Nat)
    (h : i < calls.length) : Except RunnerError Unit :=
  (executor (executor.stateAfter state (calls.take i)) calls[i]).outcome

/-- No call fails. -/
def AllSucceed (executor : Executor σ) (state : σ) (calls : List Call) : Prop :=
  ∀ i (h : i < calls.length), executor.answer state calls i h = .ok ()

/-- The call at a position fails with an error, and none before it fails. -/
def FirstFailure (executor : Executor σ) (state : σ) (calls : List Call) (i : Nat)
    (e : RunnerError) : Prop :=
  ∃ h : i < calls.length,
    (∀ j (hj : j < i), executor.answer state calls j (Nat.lt_trans hj h) = .ok ()) ∧
      executor.answer state calls i h = .error e

@[simp] theorem stateAfter_nil : executor.stateAfter state [] = state := rfl

@[simp] theorem stateAfter_cons :
    executor.stateAfter state (call :: rest) =
      executor.stateAfter (executor state call).state rest := rfl

/-- How a call is answered does not depend on the calls after it. -/
theorem answer_take {n : Nat} (h : i < (calls.take n).length) :
    executor.answer state (calls.take n) i h =
      executor.answer state calls i (Nat.lt_of_lt_of_le h (List.length_take_le' n calls)) := by
  have short : i ≤ n := by
    rw [List.length_take] at h
    omega
  simp only [answer, List.getElem_take, List.take_take, Nat.min_eq_left short]

theorem allSucceed_nil : executor.AllSucceed state [] := by
  intro i h
  exact absurd h (Nat.not_lt_zero i)

theorem allSucceed_cons :
    executor.AllSucceed state (call :: rest) ↔
      (executor state call).outcome = .ok () ∧
        executor.AllSucceed (executor state call).state rest := by
  constructor
  · intro all
    refine ⟨all 0 (Nat.zero_lt_succ _), ?_⟩
    intro i h
    exact all (i + 1) (Nat.succ_lt_succ h)
  · rintro ⟨first, later⟩ i h
    cases i with
    | zero => exact first
    | succ i => exact later i (Nat.lt_of_succ_lt_succ h)

theorem firstFailure_zero :
    executor.FirstFailure state (call :: rest) 0 e ↔ (executor state call).outcome = .error e := by
  constructor
  · rintro ⟨_, _, failed⟩
    exact failed
  · intro failed
    refine ⟨Nat.zero_lt_succ _, ?_, failed⟩
    intro j hj
    exact absurd hj (Nat.not_lt_zero j)

theorem firstFailure_succ :
    executor.FirstFailure state (call :: rest) (i + 1) e ↔
      (executor state call).outcome = .ok () ∧
        executor.FirstFailure (executor state call).state rest i e := by
  constructor
  · rintro ⟨h, earlier, failed⟩
    refine ⟨earlier 0 (Nat.zero_lt_succ i), Nat.lt_of_succ_lt_succ h, ?_, failed⟩
    intro j hj
    exact earlier (j + 1) (Nat.succ_lt_succ hj)
  · rintro ⟨first, h, earlier, failed⟩
    refine ⟨Nat.succ_lt_succ h, ?_, failed⟩
    intro j hj
    cases j with
    | zero => exact first
    | succ j => exact earlier j (Nat.lt_of_succ_lt_succ hj)

/-- Either no call fails or one of them is the first that does. -/
theorem allSucceed_or_firstFailure (executor : Executor σ) (state : σ) (calls : List Call) :
    executor.AllSucceed state calls ∨ ∃ i e, executor.FirstFailure state calls i e := by
  induction calls generalizing state with
  | nil => exact .inl allSucceed_nil
  | cons call rest ih =>
      cases first : (executor state call).outcome with
      | error e => exact .inr ⟨0, e, firstFailure_zero.mpr first⟩
      | ok _ =>
          rcases ih (executor state call).state with all | ⟨i, e, failure⟩
          · exact .inl (allSucceed_cons.mpr ⟨first, all⟩)
          · exact .inr ⟨i + 1, e, firstFailure_succ.mpr ⟨first, failure⟩⟩

theorem FirstFailure.not_allSucceed (failure : executor.FirstFailure state calls i e) :
    ¬ executor.AllSucceed state calls := by
  obtain ⟨h, _, failed⟩ := failure
  intro all
  rw [all i h] at failed
  cases failed

/-! ## Noting the calls

The executor that notes its calls answers as the one that it wraps, so what it has noted is what the
other one receives. -/

@[simp] theorem stateAfter_tracing (noted : List Call) :
    executor.tracing.stateAfter (state, noted) calls =
      (executor.stateAfter state calls, noted ++ calls) := by
  induction calls generalizing state noted with
  | nil => simp
  | cons call rest ih =>
      rw [stateAfter_cons, stateAfter_cons]
      exact (ih (noted ++ [call])).trans (by simp)

theorem answer_tracing (noted : List Call) (h : i < calls.length) :
    executor.tracing.answer (state, noted) calls i h = executor.answer state calls i h := by
  rw [answer, stateAfter_tracing]
  rfl

theorem allSucceed_tracing (noted : List Call) :
    executor.tracing.AllSucceed (state, noted) calls ↔ executor.AllSucceed state calls := by
  simp only [AllSucceed, answer_tracing]

theorem firstFailure_tracing (noted : List Call) :
    executor.tracing.FirstFailure (state, noted) calls i e ↔
      executor.FirstFailure state calls i e := by
  simp only [FirstFailure, answer_tracing]

end Packfile.Executor

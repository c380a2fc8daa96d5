import MonitorCore.Session.Step

/-!
# Runs of a session

A run is told by its moments: the session before step `i` is `after steps i`, the session that the
first `i` steps leave, and the result of step `i` is that of performing it there (`getElem?_run`).
What every step preserves, a run preserves from any of its moments to any later one
(`after_of_le`).
-/

namespace MonitorCore

namespace Session

variable [Platform] {session : Session} {steps : List Step} {step : Step} {i j : Nat}

/-- The session that the first `i` steps leave, or all of them if there are fewer. -/
def after (session : Session) (steps : List Step) (i : Nat) : Session :=
  (session.run (steps.take i)).1

@[simp] theorem after_zero (session : Session) (steps : List Step) :
    session.after steps 0 = session := rfl

theorem after_cons_succ (session : Session) (step : Step) (steps : List Step) (i : Nat) :
    session.after (step :: steps) (i + 1) = (session.step step).1.after steps i := rfl

theorem run_cons (session : Session) (step : Step) (steps : List Step) :
    session.run (step :: steps)
      = (((session.step step).1.run steps).1,
          (session.step step).2 :: ((session.step step).1.run steps).2) := rfl

theorem after_succ (h : steps[i]? = some step) :
    session.after steps (i + 1) = ((session.after steps i).step step).1 := by
  induction steps generalizing session i with
  | nil => simp at h
  | cons first steps ih =>
    cases i with
    | zero =>
      rw [List.getElem?_cons_zero, Option.some_inj] at h
      rw [h, after_cons_succ, after_zero, after_zero]
    | succ i =>
      rw [List.getElem?_cons_succ] at h
      rw [after_cons_succ, after_cons_succ, ih h]

theorem after_succ_of_none (h : steps[i]? = none) :
    session.after steps (i + 1) = session.after steps i := by
  have hlen : steps.length ≤ i := List.getElem?_eq_none_iff.mp h
  rw [after, after, List.take_of_length_le hlen, List.take_of_length_le (Nat.le_succ_of_le hlen)]

theorem getElem?_run (session : Session) (steps : List Step) (i : Nat) :
    (session.run steps).2[i]? = steps[i]?.map fun step ↦ ((session.after steps i).step step).2 := by
  induction steps generalizing session i with
  | nil => rfl
  | cons first steps ih =>
    cases i with
    | zero => rfl
    | succ i =>
      rw [run_cons, List.getElem?_cons_succ, List.getElem?_cons_succ, after_cons_succ, ih]

theorem run_take (session : Session) (steps : List Step) (i : Nat) :
    (session.run (steps.take i)).2 = (session.run steps).2.take i := by
  induction steps generalizing session i with
  | nil => rw [List.take_nil, run, List.take_nil]
  | cons first steps ih =>
    cases i with
    | zero => rfl
    | succ i => rw [List.take_succ_cons, run_cons, run_cons, List.take_succ_cons, ih]

/-- **From a moment to any later one.** What each step preserves is preserved. -/
theorem after_of_le {P : Session → Prop} (hstep : ∀ s step, P s → P (s.step step).1)
    (hij : i ≤ j) (h : P (session.after steps i)) : P (session.after steps j) := by
  induction hij with
  | refl => exact h
  | @step j _ ih =>
    cases hj : steps[j]? with
    | none =>
      rw [after_succ_of_none hj]
      exact ih
    | some step =>
      rw [after_succ hj]
      exact hstep _ _ ih

end Session

end MonitorCore

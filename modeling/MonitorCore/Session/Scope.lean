import MonitorCore.Session.Step

/-!
# Steps in a scope

A step may be performed in a scope that listens to its thread. The scope is then handed the events
of the step in place of the global subscriber, and collects them. Nothing else changes: what the
step does to the session, and what its result is, does not depend on who listens.
-/

namespace MonitorCore

/-- A step of a session, and whether a scope captures its events. -/
structure ScopedStep where
  step : Step
  captured : Bool

namespace Session

variable [Platform]

/-- What a step does, its events being those that the global subscriber is handed. -/
def performScoped (session : Session) (act : ScopedStep) : Effect (Attempt StepResult) :=
  let effect := session.perform act.step
  if act.captured then { effect with events := [] } else effect

/-- Performs a step and records its events, unless they are captured. -/
def stepScoped (session : Session) (act : ScopedStep) : Session × Attempt StepResult :=
  (session.performScoped act).settle .main

/-- The session after steps, one after the other. -/
def runScoped (session : Session) : List ScopedStep → Session
  | [] => session
  | act :: steps => (session.stepScoped act).1.runScoped steps

/-- The events that the global subscriber is handed during the steps, in order. -/
def handed (session : Session) : List ScopedStep → List Event
  | [] => []
  | act :: steps =>
    (session.performScoped act).events ++ (session.stepScoped act).1.handed steps

/-! ## Who listens makes no other difference -/

@[simp] theorem session_performScoped (session : Session) (act : ScopedStep) :
    (session.performScoped act).session = (session.perform act.step).session := by
  rw [performScoped]
  split <;> rfl

theorem events_performScoped (session : Session) (act : ScopedStep) :
    (session.performScoped act).events =
      if act.captured then [] else (session.perform act.step).events := by
  rw [performScoped]
  split <;> rfl

/-- The session after a step differs from what the step does to it in what was recorded. -/
theorem stepScoped_fst (session : Session) (act : ScopedStep) :
    (session.stepScoped act).1 =
      (session.perform act.step).session.recordAll .main
        (session.performScoped act).events := by
  rw [stepScoped, Effect.settle, session_performScoped]

theorem global_stepScoped (session : Session) (act : ScopedStep) :
    (session.stepScoped act).1.global = (session.step act.step).1.global := by
  rw [stepScoped, step, Effect.global_settle, Effect.global_settle, session_performScoped]

theorem outcome_stepScoped (session : Session) (act : ScopedStep) :
    (session.stepScoped act).1.outcome = (session.step act.step).1.outcome := by
  rw [stepScoped, step, Effect.outcome_settle, Effect.outcome_settle, session_performScoped]

theorem runScoped_append (session : Session) (steps more : List ScopedStep) :
    session.runScoped (steps ++ more) = (session.runScoped steps).runScoped more := by
  induction steps generalizing session with
  | nil => rfl
  | cons act steps ih => exact ih _

/-- Without scopes the steps are those of a run. -/
theorem runScoped_map_uncaptured (session : Session) (steps : List Step) :
    session.runScoped (steps.map (⟨·, false⟩)) = (session.run steps).1 := by
  induction steps generalizing session with
  | nil => rfl
  | cons step steps ih => exact ih _

end Session

end MonitorCore

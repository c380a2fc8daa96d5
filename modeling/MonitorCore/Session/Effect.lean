import MonitorCore.Session.State

/-!
# Effects

What an operation does to a session is said in two parts: the state that it leaves, and the events
that it emits, in order. The events are not yet recorded in that state. Recording them is the same
for every operation and comes last, so the subscriber that an operation installs gets the events
of that very operation.
-/

namespace MonitorCore

namespace Session

/-- What an operation with a result does to a session. -/
structure Effect (α : Type) where
  /-- The session before the events are recorded. -/
  session : Session
  result : α
  events : List Event

namespace Effect

variable {α β : Type}

/-- The effect of an operation that emits nothing. -/
def quiet (session : Session) (result : α) : Effect α := ⟨session, result, []⟩

def map (f : α → β) (effect : Effect α) : Effect β :=
  ⟨effect.session, f effect.result, effect.events⟩

/-- The session with the events recorded as those of a thread, and the result. -/
def settle (thread : Thread) (effect : Effect α) : Session × α :=
  (effect.session.recordAll thread effect.events, effect.result)

@[simp] theorem settle_quiet (thread : Thread) (session : Session) (result : α) :
    (quiet session result).settle thread = (session, result) := rfl

@[simp] theorem global_settle (thread : Thread) (effect : Effect α) :
    (effect.settle thread).1.global = effect.session.global :=
  global_recordAll thread effect.events effect.session

@[simp] theorem outcome_settle (thread : Thread) (effect : Effect α) :
    (effect.settle thread).1.outcome = effect.session.outcome :=
  outcome_recordAll thread effect.events effect.session

end Effect

end Session

end MonitorCore

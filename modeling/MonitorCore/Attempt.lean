/-!
# Attempts

An attempt at an operation comes to its end with a result, or it breaks off half-way. One that
breaks off has no result, not even a failure, and what it had done by then stays done.
-/

namespace MonitorCore

/-- How an attempt at an operation went. -/
inductive Attempt (α : Type) where
  /-- It came to its end. -/
  | ended (result : α)
  /-- It broke off. -/
  | broken
  deriving DecidableEq, Repr

namespace Attempt

variable {α β : Type}

def map (f : α → β) : Attempt α → Attempt β
  | ended result => ended (f result)
  | broken => broken

/-- An attempt that goes on with the result of another one. -/
def bind (attempt : Attempt α) (next : α → Attempt β) : Attempt β :=
  match attempt with
  | ended result => next result
  | broken => broken

@[simp] theorem map_ended (f : α → β) (result : α) : (ended result).map f = ended (f result) := rfl

@[simp] theorem map_broken (f : α → β) : (broken : Attempt α).map f = broken := rfl

@[simp] theorem bind_ended (result : α) (next : α → Attempt β) :
    (ended result).bind next = next result := rfl

@[simp] theorem bind_broken (next : α → Attempt β) : (broken : Attempt α).bind next = broken := rfl

theorem map_eq_ended_iff {attempt : Attempt α} {f : α → β} {result : β} :
    attempt.map f = ended result ↔ ∃ x, attempt = ended x ∧ f x = result := by
  cases attempt <;> simp

theorem map_eq_broken_iff {attempt : Attempt α} {f : α → β} :
    attempt.map f = broken ↔ attempt = broken := by
  cases attempt <;> simp

end Attempt

end MonitorCore

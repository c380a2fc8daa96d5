import MonitorCore.Failure.Basic

/-!
# Failures out of foreign errors

Below the platform errors have types of their own. They become failures of a simple kind at the
point where it is known what was being done, and their text is kept, so that nothing is swallowed:
the new message ends in the old text. A failure can be wrapped again, and then its one-line form
is the text that is kept.
-/

namespace MonitorCore

/-- An error before it is wrapped: a foreign one, known by its text, or a failure. -/
inductive Cause where
  | foreign (text : String)
  | failed (failure : Failure)
  deriving DecidableEq, Repr

def Cause.text : Cause → String
  | foreign text => text
  | failed failure => failure.display

/-- How to wrap an error: the kind to give it and, if that is to be told, what was being done. -/
structure Wrapping where
  kind : SimpleKind
  operation : Option String
  deriving DecidableEq, Repr

namespace Wrapping

variable {α : Type}

def failure (wrapping : Wrapping) (cause : Cause) : Failure :=
  match wrapping.operation with
  | none => .simple wrapping.kind cause.text
  | some operation => .simple wrapping.kind (operation ++ ": " ++ cause.text)

/-- Wraps the error of a result; a value passes unchanged. -/
def apply (wrapping : Wrapping) : Except Cause α → Except Failure α
  | .ok value => .ok value
  | .error cause => .error (wrapping.failure cause)

/-- Whether wrapping a result asks for the operation. It is asked for only when there is an error.
-/
def asksOperation (wrapping : Wrapping) : Except Cause α → Bool
  | .ok _ => false
  | .error _ => wrapping.operation.isSome

/-- One result of a chain of wrappings. -/
structure Outcome (α : Type) where
  result : Except Failure α
  operationAsked : Bool

/-- Applies the wrappings one after the other, each to the result of the one before it. -/
def chain : List Wrapping → Except Cause α → List (Outcome α)
  | [], _ => []
  | wrapping :: wrappings, result =>
    let wrapped := wrapping.apply result
    ⟨wrapped, wrapping.asksOperation result⟩
      :: chain wrappings (wrapped.mapError Cause.failed)

end Wrapping

end MonitorCore

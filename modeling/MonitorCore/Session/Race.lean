import MonitorCore.Session.Install

/-!
# Callers at the same time

Several callers may set up logging at once, each with a configuration of its own. Their moves
interleave in any order, given by a *schedule*: a list of callers, each of which makes its next
move.

Every caller is a thread of its own. The threads are started in the order of the callers, before any
of them moves.

One installation runs at a time. A caller that finds no outcome and nobody inside goes in; while
one is inside, the others wait. The one inside tries its installation, then leaves: if the attempt
came to its end, the outcome is remembered, and whoever has not gone in returns with it; if it
broke off, the next caller that moves goes in.
-/

namespace MonitorCore

namespace Session

variable [Platform]

/-- A caller that sets up logging, without a configuration or with one, and how far it is. -/
inductive Caller where
  /-- It has not gone in. -/
  | waiting (config : Option LoggingConfig)
  /-- It is inside, and the installation is its own. -/
  | inside (config : Option LoggingConfig)
  /-- It is still inside, and has made its attempt. -/
  | leaving (attempt : Attempt Outcome)
  | returned (attempt : Attempt Outcome)

namespace Caller

/-- Whether the caller keeps the others out. -/
def isInside : Caller → Bool
  | inside _ => true
  | leaving _ => true
  | _ => false

/-- What the caller was given, if it has returned. -/
def attempt? : Caller → Option (Attempt Outcome)
  | returned attempt => some attempt
  | _ => none

end Caller

/-- A session and the callers that set up its logging. -/
structure Race where
  session : Session
  callers : List Caller
  /-- How many threads there were before those of the callers. -/
  before : Nat

namespace Race

/-- The callers with these configurations, before any of them has moved. -/
def start (session : Session) (configs : List (Option LoggingConfig)) : Race :=
  { session := { session with threads := session.threads + configs.length }
    callers := configs.map .waiting
    before := session.threads }

/-- The thread of the caller with the given number. -/
def thread (race : Race) (i : Nat) : Thread := .started (race.before + i + 1)

/-- The session and the caller after the next move of a caller on its thread; `free` tells that
nobody is inside. -/
def move (thread : Thread) (free : Bool) (session : Session) : Caller → Session × Caller
  | .waiting config =>
    match session.outcome with
    | some outcome => (session, .returned (.ended outcome))
    | none => (session, if free then .inside config else .waiting config)
  | .inside config =>
    let (session, attempt) := (session.install (config.getD .default)).settle thread
    (session, .leaving attempt)
  | .leaving attempt => (session.remember attempt, .returned attempt)
  | .returned attempt => (session, .returned attempt)

/-- The next move of the caller with the given number. -/
def advance (race : Race) (i : Nat) : Race :=
  match race.callers[i]? with
  | none => race
  | some caller =>
    let free := !race.callers.any Caller.isInside
    let (session, caller) := move (race.thread i) free race.session caller
    { race with session := session, callers := race.callers.set i caller }

/-- The moves of a schedule, one after the other. -/
def run (race : Race) (schedule : List Nat) : Race := schedule.foldl advance race

@[simp] theorem run_nil (race : Race) : race.run [] = race := rfl

@[simp] theorem run_cons (race : Race) (i : Nat) (schedule : List Nat) :
    race.run (i :: schedule) = (race.advance i).run schedule := rfl

theorem run_append (race : Race) (schedule more : List Nat) :
    race.run (schedule ++ more) = (race.run schedule).run more := List.foldl_append

/-- Callers neither come nor go. -/
@[simp] theorem length_callers_advance (race : Race) (i : Nat) :
    (race.advance i).callers.length = race.callers.length := by
  rw [advance]
  split <;> simp

/-- The most moves that a caller needs if nobody is inside. -/
def movesOfCaller : Nat := 3

/-- The schedule in which each of so many callers returns before the next one moves. -/
def inTurn (count : Nat) : List Nat :=
  (List.range count).flatMap fun i ↦ List.replicate movesOfCaller i

/-- What the callers that have returned were given. -/
def attempts (race : Race) : List (Attempt Outcome) := race.callers.filterMap Caller.attempt?

end Race

end Session

end MonitorCore

/-!
# Events

An event is what the platform reports about itself while it works: a level, the module it comes
from, a message that is always the same for events of its sort, and fields that tell the
particulars. A field may be named `message` too; the event then has two fields of that name, its
own message first.
-/

namespace MonitorCore

/-- How serious an event is, the most serious first. -/
inductive Level where
  | error
  | warn
  | info
  | debug
  | trace
  deriving DecidableEq, Repr

namespace Level

def all : List Level := [error, warn, info, debug, trace]

def name : Level → String
  | error => "ERROR"
  | warn => "WARN"
  | info => "INFO"
  | debug => "DEBUG"
  | trace => "TRACE"

/-- How much a filter lets through that stops after this level. -/
def verbosity : Level → Nat
  | error => 1
  | warn => 2
  | info => 3
  | debug => 4
  | trace => 5

end Level

/-- The value of a field. -/
inductive FieldValue where
  /-- A number that counts or identifies something. -/
  | number (n : Nat)
  /-- A truth value. -/
  | flag (b : Bool)
  /-- A text that shows something. -/
  | shown (s : String)
  deriving DecidableEq, Repr

/-- An event. -/
structure Event where
  level : Level
  target : String
  message : String
  details : List (String × FieldValue)
  deriving DecidableEq, Repr

/-- All fields of an event in the order in which they are recorded. -/
def Event.fields (event : Event) : List (String × FieldValue) :=
  ("message", .shown event.message) :: event.details

end MonitorCore

import MonitorCore.Host.Environment
import MonitorCore.Host.FileTree
import MonitorCore.Logging.Config
import MonitorCore.Logging.Filter
import MonitorCore.Logging.Line

/-!
# The state of a session

What the steps of a session can see and change: files, environment variables, what was written to
the console, and the two places that logging lives in. A session has one *global subscriber*,
which gets every event; it is the service's own or a foreign one, and once there is one it stays.
And the session remembers the *outcome* of its first attempt to install a subscriber that came to
an end.

An event comes from a thread. The steps of a session belong to its main thread; other threads are
only started to set up logging at the same time, and the session counts them.
-/

namespace MonitorCore

/-- The subscriber of a service: which events it takes, and where and how it writes them. -/
structure Subscriber where
  filter : Filter
  jsonFormat : Bool
  logFile : Option Path
  deriving DecidableEq, Repr

/-- What gets the events of a session. -/
inductive GlobalSubscriber where
  /-- Nothing does yet. -/
  | vacant
  /-- A subscriber that drops everything. -/
  | foreign
  | service (subscriber : Subscriber)
  deriving DecidableEq, Repr

abbrev Outcome := Except Failure Unit

/-- The state of a session. -/
structure Session where
  files : FileTree
  env : Environment
  /-- The records written to the console, in order. A line end follows each of them. -/
  console : List String
  global : GlobalSubscriber
  outcome : Option Outcome
  /-- How many threads there have been, the main one among them. -/
  threads : Nat

namespace Session

def start : Session := ⟨{}, [], [], .vacant, none, Thread.mainNumber⟩

/-- Whether the service's own subscriber is installed. -/
def isInitialized (session : Session) : Bool :=
  match session.outcome with
  | some (.ok _) => true
  | _ => false

/-! ## Recording events -/

/-- The record of an event on the console. -/
def consoleRecord (subscriber : Subscriber) (thread : Thread) (event : Event) : String :=
  if subscriber.jsonFormat then event.jsonLine else event.consoleLine thread

/-- Adds a record to a log file. A file that is gone takes none. -/
def appendRecord (path : Path) (record : String) (files : FileTree) : FileTree :=
  match files.content? path with
  | some (.log records) => files.put path (.file (.log (records ++ [record])))
  | _ => files

/-- Adds the record of an event to the log file of a subscriber that has one. -/
def logEvent (subscriber : Subscriber) (event : Event) (files : FileTree) : FileTree :=
  match subscriber.logFile with
  | none => files
  | some path => appendRecord path event.fileLine files

/-- Hands an event of a thread to the global subscriber. -/
def record (thread : Thread) (event : Event) (session : Session) : Session :=
  match session.global with
  | .service subscriber =>
    if subscriber.filter.enables event then
      { session with
        console := session.console ++ [consoleRecord subscriber thread event]
        files := logEvent subscriber event session.files }
    else session
  | _ => session

/-- What the service's subscriber adds to the console. -/
theorem console_record {session : Session} {subscriber : Subscriber}
    (h : session.global = .service subscriber) (thread : Thread) (event : Event) :
    (session.record thread event).console = session.console ++
      if subscriber.filter.enables event then [consoleRecord subscriber thread event] else [] := by
  rw [record, h]
  simp only
  split
  · rfl
  · rw [List.append_nil]

/-- Hands events of a thread to the global subscriber, in order. -/
def recordAll (thread : Thread) (events : List Event) (session : Session) : Session :=
  events.foldl (fun session event ↦ session.record thread event) session

@[simp] theorem recordAll_nil (thread : Thread) (session : Session) :
    session.recordAll thread [] = session := rfl

@[simp] theorem recordAll_cons (thread : Thread) (event : Event) (events : List Event)
    (session : Session) :
    session.recordAll thread (event :: events) =
      (session.record thread event).recordAll thread events := rfl

/-- Events are written down, and nothing else becomes of them. -/
theorem recordAll_eq (thread : Thread) (events : List Event) (session : Session) :
    ∃ console files,
      session.recordAll thread events = { session with console := console, files := files } := by
  induction events generalizing session with
  | nil => exact ⟨session.console, session.files, rfl⟩
  | cons event events ih =>
    obtain ⟨console, files, hrest⟩ := ih (session.record thread event)
    rw [recordAll_cons, hrest, record]
    split
    · split
      · exact ⟨console, files, rfl⟩
      · exact ⟨console, files, rfl⟩
    · exact ⟨console, files, rfl⟩

@[simp] theorem global_recordAll (thread : Thread) (events : List Event) (session : Session) :
    (session.recordAll thread events).global = session.global := by
  obtain ⟨console, files, h⟩ := recordAll_eq thread events session
  rw [h]

@[simp] theorem outcome_recordAll (thread : Thread) (events : List Event) (session : Session) :
    (session.recordAll thread events).outcome = session.outcome := by
  obtain ⟨console, files, h⟩ := recordAll_eq thread events session
  rw [h]

end Session

end MonitorCore

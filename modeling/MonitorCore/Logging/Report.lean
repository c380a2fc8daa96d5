import MonitorCore.Failure.Basic
import MonitorCore.Logging.Event
import MonitorCore.Text.Quoted

/-!
# Reporting failures

A failure is reported by one event. A validation failure is a mistake of the caller and goes out
as a warning, with the number of its records and its field map; a simple failure is a fault of
operation and goes out as an error.
-/

namespace MonitorCore

open Text (KeyMap quoted)

/-- A map of texts in one text: every key and value quoted. -/
def shownMap (entries : KeyMap String) : String :=
  "\x7b" ++ ", ".intercalate (entries.map fun entry ↦ quoted entry.1 ++ ": " ++ quoted entry.2)
    ++ "\x7d"

namespace Failure

/-- Where the events about failures come from. -/
def target : String := "geomon_core::logging"

/-- The event that reports a failure. -/
def event (failure : Failure) : Event :=
  let summary :=
    [("failure_kind", .shown failure.kind.title), ("message", .shown failure.message)]
  match failure.fieldMap? with
  | none => ⟨.error, target, "Failure occurred", summary⟩
  | some fields =>
    { level := .warn
      target := target
      message := "Validation failure"
      details :=
        summary
          ++ [("records", .number failure.records.length), ("fields", .shown (shownMap fields))] }

end Failure

end MonitorCore

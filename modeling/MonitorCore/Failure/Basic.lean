import MonitorCore.Failure.Kind
import MonitorCore.Text.KeyMap

/-!
# Failures

A failure is a kind with a message; a validation failure also has records, one per complaint about
a field. Two projections leave the platform with it: the *field map*, which gives one message per
path, and the summary message, which is derived from the records unless the caller gave one.
-/

namespace MonitorCore

open Text (KeyMap)

/-- One complaint about a field. -/
structure ErrorRecord where
  /-- The field, which may lie deep inside the input. -/
  path : String
  /-- The rule that was broken. -/
  rule : String
  /-- What is wrong, for people. -/
  message : String
  deriving DecidableEq, Repr

/-- A failure. -/
inductive Failure where
  | simple (kind : SimpleKind) (message : String)
  | validation (kind : ValidationKind) (message : String) (records : List ErrorRecord)
  deriving DecidableEq, Repr

namespace Failure

/-! ## Making failures -/

/-- A failure without a kind of its own. -/
def base (message : String) : Failure := simple .base message

/-- The entries `rule: message` of the records, one a line, divided by commas. -/
def derivedMessage (records : List ErrorRecord) : String :=
  ",\n".intercalate (records.map fun record ↦ record.rule ++ ": " ++ record.message)

/-- A validation failure from its records. A message that is absent or empty is derived from them.
-/
def ofRecords (kind : ValidationKind) (message : Option String) (records : List ErrorRecord) :
    Failure :=
  match message with
  | none => validation kind (derivedMessage records) records
  | some text => validation kind (if text = "" then derivedMessage records else text) records

/-! ## Reading failures -/

def kind : Failure → FailureKind
  | simple kind _ => .simple kind
  | validation kind _ _ => .validation kind

def message : Failure → String
  | simple _ message => message
  | validation _ message _ => message

/-- The records; a simple failure has none. -/
def records : Failure → List ErrorRecord
  | simple _ _ => []
  | validation _ _ records => records

/-- Whether the failure is one of validation. -/
def isValidation (failure : Failure) : Bool := failure.kind.isValidation

/-- The failure in one line: the title of its kind and its message. -/
def display (failure : Failure) : String := failure.kind.title ++ ": " ++ failure.message

/-- The message of each path that a record names. Of several records with one path the last
counts. -/
def fieldMapOf (records : List ErrorRecord) : KeyMap String :=
  KeyMap.ofList (records.map fun record ↦ (record.path, record.message))

/-- The field map of a validation failure. -/
def fieldMap? : Failure → Option (KeyMap String)
  | simple _ _ => none
  | validation _ _ records => some (fieldMapOf records)

end Failure

end MonitorCore

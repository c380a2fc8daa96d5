import MonitorCore.Failure.Basic
import MonitorCore.Json.Record

/-!
# Failures in JSON

A failure leaves the platform in two forms. The *body* goes to clients: title, message and, for a
validation failure, the field map, all keys in order. The *serial form* keeps everything: kind,
message and the list of records, which is left out when it is empty.
-/

namespace MonitorCore

open Json (Value Format RecordFormat Slot)

def ErrorRecord.recordFormat : RecordFormat ErrorRecord where
  name := "ErrorRecord"
  blank := ⟨"", "", ""⟩
  slots :=
    [.of "path" true .text ErrorRecord.path fun x r ↦ { r with path := x },
     .of "type" true .text ErrorRecord.rule fun x r ↦ { r with rule := x },
     .of "message" true .text ErrorRecord.message fun x r ↦ { r with message := x }]

def ErrorRecord.format : Format ErrorRecord := ErrorRecord.recordFormat.toFormat

namespace Failure

/-- What clients are sent. -/
def body (failure : Failure) : Value :=
  let summary := [("message", .text failure.message), ("name", .text failure.kind.title)]
  match failure.fieldMap? with
  | none => .object summary
  | some fields =>
    .object (("errors", .object (fields.map fun entry ↦ (entry.1, .text entry.2))) :: summary)

def toJson (failure : Failure) : Value :=
  let summary :=
    [("kind", FailureKind.format.toJson failure.kind), ("message", .text failure.message)]
  match failure.records with
  | [] => .object summary
  | records => .object (summary ++ [("errors", (Format.list ErrorRecord.format).toJson records)])

end Failure

end MonitorCore

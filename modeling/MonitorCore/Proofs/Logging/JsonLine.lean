import MonitorCore.Logging.Line
import MonitorCore.Proofs.Json.OneLine
import MonitorCore.Proofs.Json.Printed
import MonitorCore.Proofs.Text.Override

/-!
# Reading JSON lines

A JSON line is the text of one object, and nothing in the fields of an event can break it: it has no
line end, and what is read from it are the members that were written, in this order. The fields of
an event stand next to the members that every line has, so a key may be there twice; a reader that
keeps the last member of each key finds the later field.
-/

namespace MonitorCore

open Json (Value Visible depthLimit parse readText)
open Text (KeyMap)

namespace FieldValue

variable {value : FieldValue}

theorem canonical_inJson (value : FieldValue) : value.inJson.canonical = value.inJson := by
  cases value <;> rfl

/-- Only a number that fits in no machine word would not be read back. -/
theorem fits_inJson (h : ∀ n, value = .number n → n < Decimal.wordLimit) (depth : Nat) :
    value.inJson.Fits depth := by
  cases value with
  | number n =>
    have hn := h n rfl
    simp only [inJson, Value.ofNat, Value.Fits]
    omega
  | flag b => simp [inJson, Value.Fits]
  | shown s => simp [inJson, Value.Fits]

end FieldValue

namespace Event

variable {event : Event}

/-- The numbers of the event fit in machine words. -/
def CountsFit (event : Event) : Prop :=
  ∀ field ∈ event.fields, ∀ n, field.2 = .number n → n < Decimal.wordLimit

/-- The fields of an event as members of an object. -/
def fieldMembers (event : Event) : List (String × Value) :=
  event.fields.map fun field ↦ (field.1, field.2.inJson)

theorem members_eq (event : Event) : event.members =
    [("timestamp", .text timeMark), ("level", .text event.level.name)] ++ event.fieldMembers
      ++ [("target", .text event.target)] := rfl

theorem forall_mem_members {P : String × Value → Prop} : (∀ member ∈ event.members, P member) ↔
    P ("timestamp", .text timeMark) ∧ P ("level", .text event.level.name) ∧
      (∀ field ∈ event.fields, P (field.1, field.2.inJson)) ∧ P ("target", .text event.target) := by
  simp only [members_eq, fieldMembers, List.forall_mem_append, List.forall_mem_cons,
    List.forall_mem_map, List.not_mem_nil, IsEmpty.forall_iff, implies_true, and_true,
    and_assoc]

theorem fieldMembers_infix (event : Event) : event.fieldMembers <:+: event.members :=
  ⟨_, _, event.members_eq.symm⟩

/-- **A JSON line** is one line. -/
theorem visible_jsonLine (event : Event) : Visible event.jsonLine.toList :=
  Value.visible_compact _

/-- **What is read** are the members that were written. -/
theorem readText_jsonLine (h : event.CountsFit) :
    readText event.jsonLine.toList = some (.object event.members) := by
  refine Json.readText_compact_object (forall_mem_members.2 ⟨?_, ?_, fun field hfield ↦ ?_, ?_⟩)
  · simp [Value.Fits]
  · simp [Value.Fits]
  · exact FieldValue.fits_inJson (h field hfield) _
  · simp [Value.Fits]

theorem canonicalMembers_members (event : Event) :
    Value.canonicalMembers event.members = event.members := by
  have hcanonical : ∀ member ∈ event.members, (member.1, member.2.canonical) = id member :=
    forall_mem_members.2 ⟨rfl, rfl,
      fun field _ ↦ congrArg (Prod.mk field.1) field.2.canonical_inJson, rfl⟩
  rw [Value.canonicalMembers_eq_map, List.map_congr_left hcanonical, List.map_id]

/-- Of the members with one key the last is kept. -/
theorem parse_jsonLine (h : event.CountsFit) :
    parse event.jsonLine = some (.object (KeyMap.ofList event.members)) := by
  rw [parse, readText_jsonLine h, Option.map_some, Value.canonical, canonicalMembers_members]

end Event

end MonitorCore

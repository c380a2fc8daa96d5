import Mathlib.Data.List.Forall2
import MonitorCore.Proofs.Logging.JsonLine

/-!
# Records of events

What a reader finds in the record of an event, whichever way it was written. A record in JSON is one
line, and it is read as an object that has the fields of the event, in their order, between the
members that every record has. A record in text is a line that tells time, level and target, and the
thread if there is one to tell, and then the fields in their order.
-/

namespace MonitorCore

open Json (Visible readText)

namespace Event

variable {event : Event}

/-- The record is one line, and unless a number is too large for a machine word it is read as the
object with these members. -/
structure InJson (event : Event) (record : String) : Prop where
  visible : Visible record.toList
  read : event.CountsFit → readText record.toList = some (.object
    ([("timestamp", .text timeMark), ("level", .text event.level.name)]
      ++ event.fields.map (fun field ↦ (field.1, field.2.inJson))
      ++ [("target", .text event.target)]))

/-- How a field stands in a text: a message alone, and as it is unless it could drive a terminal,
and any other field behind its key. -/
inductive FieldInText : String × FieldValue → String → Prop
  | message (value : FieldValue) (text : String) (htext : text = messageText value.inText)
      (hplain : (∀ c ∈ value.inText.toList, drivesTerminal c = false) → text = value.inText) :
      FieldInText ("message", value) text
  | keyed (key : String) (hkey : key ≠ "message") (value : FieldValue) :
      FieldInText (key, value) (key ++ "=" ++ value.inText)

/-- The record tells the time, the level, the thread in the given words, and the target, and behind
a colon the fields, one after the other. -/
def InText (thread : String) (event : Event) (record : String) : Prop :=
  ∃ texts, List.Forall₂ FieldInText event.fields texts ∧
    record = "TIME " ++ event.level.aligned ++ " " ++ thread ++ event.target ++ ": "
      ++ " ".intercalate texts

/-- **A record in JSON.** -/
theorem inJson_jsonLine (event : Event) : event.InJson event.jsonLine :=
  ⟨event.visible_jsonLine, readText_jsonLine⟩

theorem messageText_of_plain {s : String} (h : ∀ c ∈ s.toList, drivesTerminal c = false) :
    messageText s = s := by
  have hsingle : s.toList.flatMap messageChar = s.toList.flatMap fun c ↦ [c] :=
    List.flatMap_congr fun c hc ↦ by rw [messageChar, h c hc]; rfl
  rw [messageText, hsingle, List.flatMap_singleton', String.ofList_toList]

theorem fieldInText_fieldText (field : String × FieldValue) :
    FieldInText field (fieldText field) := by
  obtain ⟨key, value⟩ := field
  by_cases hkey : key = "message"
  · subst hkey
    exact .message value _ rfl messageText_of_plain
  · rw [fieldText, if_neg hkey]
    exact .keyed key hkey value

/-- **A record in text.** -/
theorem inText_textLine (thread : String) (event : Event) :
    event.InText thread (event.textLine thread) := by
  refine ⟨event.fields.map fieldText, ?_, rfl⟩
  rw [List.forall₂_map_right_iff, List.forall₂_same]
  exact fun field _ ↦ fieldInText_fieldText field

end Event

end MonitorCore

import MonitorCore.Proofs.Failure.Body

/-!
# The serial form leaves nothing out

Two things could be lost in the serial form of a failure: its shape, since the name of the kind
stands alone for both shapes, and an empty list of records, which is not written. The names of all
kinds differ, so the name tells the shape; and where no records are written there are none. So a
reader (`Failure.ofJson?`) gets the failure back from its text, and two failures with one text are
the same.
-/

namespace MonitorCore

open Json (Value Format depthLimit parse)
open Text (KeyMap)

/-! ## Members of a canonical value -/

theorem Json.Value.get?_canonical {members : List (String × Value)}
    (h : (members.map Prod.fst).Nodup) (key : String) :
    KeyMap.get? key (KeyMap.ofList (canonicalMembers members)) =
      (KeyMap.get? key members).map canonical := by
  have hkeys : ((canonicalMembers members).map Prod.fst).Nodup := by rwa [canonicalMembers_keys]
  refine Option.ext fun value ↦ ?_
  rw [KeyMap.get?_eq_some_iff (KeyMap.ofList_ordered _).1.nodup, (KeyMap.ofList_perm hkeys).mem_iff,
    canonicalMembers_eq_map, List.mem_map, Option.map_eq_some_iff]
  constructor
  · rintro ⟨member, hmember, heq⟩
    obtain ⟨rfl, rfl⟩ := Prod.mk.inj heq
    exact ⟨member.2, KeyMap.get?_of_mem h hmember, rfl⟩
  · rintro ⟨v, hget, rfl⟩
    exact ⟨(key, v), KeyMap.mem_of_get? hget, rfl⟩

namespace Failure

variable {failure other : Failure}

/-! ## Parts of a failure -/

theorem eq_iff : failure = other ↔
    failure.kind = other.kind ∧ failure.message = other.message ∧
      failure.records = other.records := by
  cases failure <;> cases other <;> simp [kind, message, records]

/-- The failure with these parts. A simple kind comes without records. -/
def ofParts? : FailureKind → String → List ErrorRecord → Option Failure
  | .simple kind, message, [] => some (.simple kind message)
  | .simple _, _, _ :: _ => none
  | .validation kind, message, records => some (.validation kind message records)

theorem ofParts?_parts (failure : Failure) :
    ofParts? failure.kind failure.message failure.records = some failure := by
  cases failure <;> rfl

/-! ## Reading the serial form -/

/-- The records among the members of a serial form; where they are left out there are none. -/
def recordsOf? (members : KeyMap Value) : Option (List ErrorRecord) :=
  match KeyMap.get? "errors" members with
  | none => some []
  | some v => ((Format.list ErrorRecord.format).ofValue v).toOption

def ofJson? : Value → Option Failure
  | .object members => do
    let kind ← (FailureKind.format.ofValue (← KeyMap.get? "kind" members)).toOption
    let message ← (Format.text.ofValue (← KeyMap.get? "message" members)).toOption
    ofParts? kind message (← recordsOf? members)
  | _ => none

/-- The members of a serial form, as they are written. -/
def serialMembers (failure : Failure) : List (String × Value) :=
  [("kind", FailureKind.format.toJson failure.kind), ("message", .text failure.message)] ++
    if failure.records = [] then []
    else [("errors", (Format.list ErrorRecord.format).toJson failure.records)]

theorem toJson_eq (failure : Failure) : failure.toJson = .object failure.serialMembers := by
  rw [toJson, serialMembers]
  cases failure.records <;> rfl

theorem serialMembers_nodup (failure : Failure) : (failure.serialMembers.map Prod.fst).Nodup := by
  rw [serialMembers]
  split <;> simp

theorem toJson_fits (failure : Failure) (depth : Nat) : failure.toJson.Fits (depth + 3) := by
  rw [toJson_eq]
  refine ⟨failure.serialMembers_nodup, fun member hmember ↦ ?_⟩
  have hkind := (FailureKind.restoresAt_format (depth + 2)).fits failure.kind
  have hrecords := (ErrorRecord.restoresAt_format depth).list.fits failure.records
  rw [serialMembers] at hmember
  split at hmember
  · simp only [List.append_nil, List.mem_cons, List.not_mem_nil, or_false] at hmember
    rcases hmember with rfl | rfl
    · exact hkind
    · simp [Value.Fits]
  · simp only [List.cons_append, List.nil_append, List.mem_cons, List.not_mem_nil, or_false]
      at hmember
    rcases hmember with rfl | rfl | rfl
    · exact hkind
    · simp [Value.Fits]
    · exact hrecords

theorem get?_errors_serialMembers (failure : Failure) :
    KeyMap.get? "errors" failure.serialMembers =
      if failure.records = [] then none
      else some ((Format.list ErrorRecord.format).toJson failure.records) := by
  rw [serialMembers]
  split <;> simp [KeyMap.get?_cons]

theorem get?_kind_serialMembers (failure : Failure) : KeyMap.get? "kind" failure.serialMembers =
    some (FailureKind.format.toJson failure.kind) := rfl

theorem get?_message_serialMembers (failure : Failure) :
    KeyMap.get? "message" failure.serialMembers = some (Format.text.toJson failure.message) := rfl

theorem recordsOf?_canonical_serialMembers (failure : Failure) :
    recordsOf? (KeyMap.ofList (Value.canonicalMembers failure.serialMembers)) =
      some failure.records := by
  have hread := (ErrorRecord.restoresAt_format 0).list.restores failure.records
  rw [recordsOf?, Value.get?_canonical failure.serialMembers_nodup, get?_errors_serialMembers]
  by_cases hnone : failure.records = []
  · rw [if_pos hnone, hnone]
    rfl
  · simp only [if_neg hnone, Option.map_some, hread, Except.toOption]

/-- **The reader** undoes the writing. -/
theorem ofJson?_canonical_toJson (failure : Failure) :
    ofJson? failure.toJson.canonical = some failure := by
  have hkind := (FailureKind.restoresAt_format 0).restores failure.kind
  have hmessage := (Format.restoresAt_text 0).restores failure.message
  have hget := Value.get?_canonical failure.serialMembers_nodup
  rw [toJson_eq, Value.canonical, ofJson?, hget, hget, get?_kind_serialMembers,
    get?_message_serialMembers, recordsOf?_canonical_serialMembers]
  simp only [Option.map_some, Option.bind_eq_bind, Option.bind_some, hkind, hmessage,
    Except.toOption, ofParts?_parts]

end Failure

/-- **The serial form reads back**: from its text the kind, the message and the records of a failure
are read, and records are written if and only if there are some. Two failures have the same text if
and only if they agree in all three, which is if they are the same failure. -/
theorem serial_form_reads_back (failure : Failure) :
    (parse failure.toJson.compact).bind Failure.ofJson? = some failure ∧
    (∃ members, parse failure.toJson.compact = some (.object members) ∧
      ("errors" ∈ members.map Prod.fst ↔ failure.records ≠ [])) ∧
    ∀ other : Failure,
      (failure.toJson.compact = other.toJson.compact ↔ failure = other) ∧
      (failure = other ↔ failure.kind = other.kind ∧ failure.message = other.message ∧
        failure.records = other.records) := by
  have hparse := Json.parse_compact (failure.toJson_fits _)
  have hread := failure.ofJson?_canonical_toJson
  refine ⟨?_, ?_, fun other ↦ ⟨⟨fun htext ↦ ?_, fun heq ↦ by rw [heq]⟩, Failure.eq_iff⟩⟩
  · rw [hparse, Option.bind_some, hread]
  · rw [Failure.toJson_eq, Value.canonical] at hparse
    rw [Failure.toJson_eq]
    refine ⟨_, hparse, ?_⟩
    rw [← not_iff_not, ← KeyMap.get?_eq_none_iff,
      Value.get?_canonical failure.serialMembers_nodup, Failure.get?_errors_serialMembers]
    split <;> simp [*]
  · have heq := (Json.Value.compact_inj (failure.toJson_fits _) (other.toJson_fits _)).1 htext
    rw [heq, other.ofJson?_canonical_toJson] at hread
    exact (Option.some_inj.1 hread).symm

end MonitorCore

import MonitorCore.Logging.Report
import MonitorCore.Proofs.Failure.Body
import MonitorCore.Proofs.Text.SelfDelimiting

/-!
# What the log tells of a failure

The event about a validation failure shows its field map in one text. Keys and messages are quoted
there, so that each of them shows where it ends, whatever it contains, and with them the entries and
the map. The event therefore tells as much about a failure as its body, and the number of records
besides.
-/

namespace MonitorCore

open Text (KeyMap NeverStarts SelfDelimiting quoted selfDelimiting_quoted toList_quoted)

/-! ## Maps in one text -/

def shownEntry (entry : String × String) : List Char :=
  (quoted entry.1).toList ++ ([':', ' '] ++ (quoted entry.2).toList)

theorem selfDelimiting_shownEntry : SelfDelimiting shownEntry := by
  have h := selfDelimiting_quoted.pair (selfDelimiting_quoted.after [':', ' '])
  exact h

theorem neverStarts_shownEntry : NeverStarts '}' shownEntry := by
  intro entry rest rest' heq
  rw [shownEntry, toList_quoted] at heq
  exact absurd (List.cons_eq_cons.1 heq).1 (by decide)

theorem toList_shownMap (entries : KeyMap String) : (shownMap entries).toList =
    ['{'] ++ ([',', ' '].intercalate (entries.map shownEntry) ++ ['}']) := by
  have hentry : ∀ entry ∈ entries, (String.toList ∘ fun entry : String × String ↦
      quoted entry.1 ++ ": " ++ quoted entry.2) entry = shownEntry entry := fun entry _ ↦ by
    simp [shownEntry]
  rw [shownMap, String.toList_append, String.toList_append, String.toList_intercalate, List.map_map,
    List.map_congr_left hentry]
  simp

/-- **A shown map** tells its entries. -/
theorem shownMap_injective : Function.Injective shownMap := by
  have hcomma : NeverStarts '}' fun entry ↦ [',', ' '] ++ shownEntry entry :=
    fun _ _ _ heq ↦ absurd (List.cons_eq_cons.1 heq).1 (by decide)
  have hentries := selfDelimiting_shownEntry.intercalate neverStarts_shownEntry hcomma
  intro entries entries' heq
  refine (hentries.after ['{']).injective ?_
  simpa only [toList_shownMap] using congrArg String.toList heq

namespace Failure

variable {failure other : Failure}

theorem event_eq_iff : failure.event = other.event ↔
    failure.kind = other.kind ∧ failure.message = other.message ∧
      (failure.isValidation = true → failure.records.length = other.records.length ∧
        failure.fieldMap? = other.fieldMap?) := by
  cases failure <;> cases other <;>
    simp [event, fieldMap?, isValidation, kind, message, records, FailureKind.isValidation,
      FailureKind.title_injective.eq_iff, shownMap_injective.eq_iff]

/-- A failure of validation shows in its event the map that its body has under `errors`. -/
theorem exists_errors_of_fieldMap? {fields : KeyMap String} (h : failure.fieldMap? = some fields) :
    ("fields", .shown (shownMap fields)) ∈ failure.event.fields ∧
      ∃ members, failure.body = .object members ∧
        KeyMap.get? "errors" members = some (fieldsValue fields) := by
  refine ⟨?_, failure.bodyMembers, failure.body_eq, ?_⟩
  · simp [event, h, Event.fields]
  · rw [KeyMap.get?_eq_some_iff failure.bodyMembers_ordered.nodup, mem_bodyMembers]
    exact .inr (.inr ⟨rfl, fields, h, rfl⟩)

theorem fieldMap?_eq_none_iff : failure.fieldMap? = none ↔ failure.isValidation = false := by
  cases failure <;> simp [fieldMap?, isValidation, kind, FailureKind.isValidation]

theorem body_eq_of_event_eq (h : failure.event = other.event) : failure.body = other.body := by
  obtain ⟨hkind, hmessage, hvalidation⟩ := event_eq_iff.1 h
  refine body_eq_iff.2 ⟨hkind, hmessage, ?_⟩
  cases hshape : failure.isValidation with
  | true => exact (hvalidation hshape).2
  | false =>
    have hother : other.isValidation = false := by rwa [isValidation, ← hkind]
    rw [fieldMap?_eq_none_iff.2 hshape, fieldMap?_eq_none_iff.2 hother]

end Failure

/-- **The event about a failure** tells its kind, its message and, of a failure of validation, the
number of records and the field map: two failures have the same event if and only if they agree in
these. The text of the map in the event is a text of this map alone, which is the one in the body;
and failures with the same event have the same body. -/
theorem event_tells_body (failure other : Failure) :
    (failure.event = other.event ↔
      failure.kind = other.kind ∧ failure.message = other.message ∧
        (failure.isValidation = true → failure.records.length = other.records.length ∧
          failure.fieldMap? = other.fieldMap?)) ∧
    (failure.event = other.event → failure.body = other.body) ∧
    (∀ fields, failure.fieldMap? = some fields →
      ("fields", .shown (shownMap fields)) ∈ failure.event.fields ∧
        ∃ members, failure.body = .object members ∧ KeyMap.get? "errors" members =
          some (.object (fields.map fun entry ↦ (entry.1, .text entry.2)))) ∧
    ∀ fields fields' : KeyMap String, shownMap fields = shownMap fields' ↔ fields = fields' :=
  ⟨Failure.event_eq_iff, Failure.body_eq_of_event_eq,
    fun _ ↦ Failure.exists_errors_of_fieldMap?, fun _ _ ↦ shownMap_injective.eq_iff⟩

end MonitorCore

import MonitorCore.Failure.Basic
import MonitorCore.Proofs.Text.Split

/-!
# The summary message

A summary message that nobody gave is derived from the records: their entries `rule: message`, one a
line. The end of a line does not tell where an entry ends, since an entry may have lines of its own,
but a comma before it does, unless a rule or a message contains the two. No other pair comes about
by joining: between a rule and a message stands the colon, and a comma at the end of an entry is
not the one before the new line.
-/

namespace MonitorCore

open Text (Closes closes_of_contains_eq_false partsOf partsOf_intercalate)

def ErrorRecord.entry (record : ErrorRecord) : String := record.rule ++ ": " ++ record.message

/-- The colon between rule and message makes no new pair of a comma and a new line. -/
theorem ErrorRecord.contains_entry {record : ErrorRecord}
    (hrule : record.rule.contains ",\n" = false)
    (hmessage : record.message.contains ",\n" = false) : record.entry.contains ",\n" = false := by
  rw [String.contains_string_eq_false_iff] at hrule hmessage ⊢
  intro hentry
  have hlist : [',', '\n'] <:+: record.rule.toList ++ ':' :: ' ' :: record.message.toList := by
    simpa [entry] using hentry
  rcases List.infix_append_iff_ne_nil.1 hlist with
    hin | hin | ⟨left, right, hleft, hright, heq, -, hprefix⟩
  · exact hrule hin
  · have hin : [',', '\n'] <:+: record.message.toList := by simpa [List.infix_cons_iff] using hin
    exact hmessage hin
  · -- The second part of the pair begins with its second character, not with the colon.
    obtain ⟨c, left, rfl⟩ := List.exists_cons_of_ne_nil hleft
    obtain ⟨d, right, rfl⟩ := List.exists_cons_of_ne_nil hright
    obtain ⟨rfl, -⟩ := List.cons_prefix_cons.1 hprefix
    have hmem : ':' ∈ ['\n'] := by
      rw [(List.cons_eq_cons.1 heq).2]
      simp
    exact absurd hmem (by decide)

namespace Failure

variable {records more : List ErrorRecord}

theorem derivedMessage_eq (records : List ErrorRecord) :
    derivedMessage records = ",\n".intercalate (records.map ErrorRecord.entry) := rfl

theorem derivedMessage_append (hne : records ≠ []) (hmore : more ≠ []) :
    derivedMessage (records ++ more) =
      derivedMessage records ++ ",\n" ++ derivedMessage more := by
  rw [derivedMessage_eq, List.map_append,
    String.intercalate_append_of_ne_nil (by simpa using hne) (by simpa using hmore)]
  rfl

theorem derivedMessage_eq_empty_iff : derivedMessage records = "" ↔ records = [] := by
  cases records with
  | nil => simp [derivedMessage_eq]
  | cons record records =>
    have hentry : record.entry ≠ "" := by simp [ErrorRecord.entry]
    cases records with
    | nil => simp [derivedMessage_eq, hentry]
    | cons next records => simp [derivedMessage_eq, String.intercalate_cons_cons]

theorem partsOf_derivedMessage (hne : records ≠ [])
    (hfree : ∀ record ∈ records, record.rule.contains ",\n" = false ∧
      record.message.contains ",\n" = false) :
    partsOf ",\n" (derivedMessage records) = records.map ErrorRecord.entry := by
  refine partsOf_intercalate (by decide) (by simpa using hne) (List.forall_mem_map.2 ?_)
  intro record hmem
  obtain ⟨hrule, hmessage⟩ := hfree record hmem
  exact closes_of_contains_eq_false (by decide) (ErrorRecord.contains_entry hrule hmessage)

theorem message_ofRecords_of_ne_empty {text : String} (hne : text ≠ "") (kind : ValidationKind)
    (records : List ErrorRecord) : (ofRecords kind (some text) records).message = text := by
  simp [ofRecords, message, hne]

theorem message_ofRecords_of_empty {given : Option String} (h : given = none ∨ given = some "")
    (kind : ValidationKind) (records : List ErrorRecord) :
    (ofRecords kind given records).message = derivedMessage records := by
  rcases h with rfl | rfl <;> rfl

theorem kind_ofRecords (kind : ValidationKind) (given : Option String)
    (records : List ErrorRecord) : (ofRecords kind given records).kind = .validation kind := by
  cases given <;> rfl

theorem records_ofRecords (kind : ValidationKind) (given : Option String)
    (records : List ErrorRecord) : (ofRecords kind given records).records = records := by
  cases given <;> rfl

/-- The ways to make a failure. -/
inductive Made : Failure → Prop
  | simple (kind : SimpleKind) (message : String) : Made (.simple kind message)
  | ofRecords (kind : ValidationKind) (given : Option String) (records : List ErrorRecord) :
    Made (.ofRecords kind given records)

theorem Made.message_ne_empty {failure : Failure} (h : failure.Made)
    (hne : failure.records ≠ []) : failure.message ≠ "" := by
  cases h with
  | simple => exact absurd rfl hne
  | ofRecords kind given records =>
    rw [records_ofRecords] at hne
    by_cases hgiven : given = none ∨ given = some ""
    · rwa [message_ofRecords_of_empty hgiven, Ne, derivedMessage_eq_empty_iff]
    · rw [not_or] at hgiven
      obtain ⟨text, rfl⟩ := Option.ne_none_iff_exists'.1 hgiven.1
      have htext : text ≠ "" := fun heq ↦ hgiven.2 (congrArg some heq)
      rwa [message_ofRecords_of_ne_empty htext]

end Failure

/-- **The summary message** of a validation failure is the given one if this is not empty, and else
is derived from the records, which are kept. The derived one is empty only if there are no records;
it joins what is derived from the parts of the list; and it splits into the entries of the records
unless one of their texts contains the separator. So a failure with records has a message, however
it was made. -/
theorem summary_message (kind : ValidationKind) (given : Option String)
    (records : List ErrorRecord) :
    (Failure.ofRecords kind given records).kind = .validation kind ∧
    (Failure.ofRecords kind given records).records = records ∧
    (∀ text, given = some text → text ≠ "" →
      (Failure.ofRecords kind given records).message = text) ∧
    (given = none ∨ given = some "" →
      (Failure.ofRecords kind given records).message = Failure.derivedMessage records) ∧
    (Failure.derivedMessage records = "" ↔ records = []) ∧
    (∀ more, records ≠ [] → more ≠ [] → Failure.derivedMessage (records ++ more) =
      Failure.derivedMessage records ++ ",\n" ++ Failure.derivedMessage more) ∧
    (records ≠ [] → (∀ record ∈ records, record.rule.contains ",\n" = false ∧
        record.message.contains ",\n" = false) →
      partsOf ",\n" (Failure.derivedMessage records) =
        records.map fun record ↦ record.rule ++ ": " ++ record.message) ∧
    ∀ failure : Failure, failure.Made → failure.records ≠ [] → failure.message ≠ "" := by
  refine ⟨Failure.kind_ofRecords kind given records, Failure.records_ofRecords kind given records,
    ?_, fun hgiven ↦ Failure.message_ofRecords_of_empty hgiven kind records,
    Failure.derivedMessage_eq_empty_iff,
    fun more hne hmore ↦ Failure.derivedMessage_append hne hmore, Failure.partsOf_derivedMessage,
    fun failure hmade ↦ hmade.message_ne_empty⟩
  rintro text rfl hne
  exact Failure.message_ofRecords_of_ne_empty hne kind records

/-- Neither a comma at the end of an entry nor a new line at the beginning of the next one moves the
border. -/
theorem summary_message_of_odd_texts :
    let records := [⟨"name", "length", "too long,"⟩, ⟨"uri", "\nunique", ""⟩, ⟨"", "", ","⟩]
    (Failure.ofRecords .user none records).message =
        "length: too long,,\n\nunique: ,\n: ," ∧
      partsOf ",\n" (Failure.ofRecords .user none records).message =
        ["length: too long,", "\nunique: ", ": ,"] := by
  intro records
  have hfree : ∀ record ∈ records, record.rule.contains ",\n" = false ∧
      record.message.contains ",\n" = false := by
    simp only [String.contains_string_eq_false_iff]
    decide
  obtain ⟨-, -, -, hderived, -, -, hparts, -⟩ := summary_message .user none records
  rw [hderived (.inl rfl)]
  exact ⟨by decide, hparts (by decide) hfree⟩

end MonitorCore

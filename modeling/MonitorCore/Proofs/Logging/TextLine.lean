import MonitorCore.Logging.Line
import MonitorCore.Logging.Report
import MonitorCore.Proofs.Failure.Derived
import MonitorCore.Proofs.Host.Lines
import MonitorCore.Proofs.Json.OneLine

/-!
# Failures in text lines

The text line of a failure is its message between two parts that are visible throughout, whatever
the failure holds: paths and messages of records are quoted there (`Failure.visible_lineHead`,
`Failure.visible_lineTail`). The message stands as it is, but for the characters that could drive a
terminal, and so keeps its line ends (`lineEnds_messageText`). These are the line ends of the text
line, and there are no others.

A message that is derived from records has a line for each of them, and further ones for the line
ends in their rules and messages (`Failure.lineEnds_derivedMessage_add_one`).
-/

namespace MonitorCore

open Content (textLines)
open Json (Visible hexPair le_toNat_digitChar visible_append visible_flatMap visible_toDigits)
open Text (KeyMap lineEnds lineEnds_append lineEnds_eq_zero_iff lineEnds_intercalate_add
  lineEnds_ofList quoted)

variable {c : Char}

/-! ## Quoted texts -/

namespace Text

theorem visible_intercalate {sep : String} {texts : List String} (hsep : Visible sep.toList)
    (h : ∀ text ∈ texts, Visible text.toList) : Visible (sep.intercalate texts).toList := by
  induction texts with
  | nil => simp
  | cons text texts ih =>
    rw [List.forall_mem_cons] at h
    cases texts with
    | nil => simpa using h.1
    | cons next texts =>
      rw [String.intercalate_cons_cons, String.toList_append, String.toList_append, visible_append,
        visible_append]
      exact ⟨⟨h.1, hsep⟩, ih h.2⟩

theorem lineEnds_of_visible {s : String} (h : Visible s.toList) : lineEnds s = 0 :=
  lineEnds_eq_zero_iff.2 (h.notMem (by decide))

theorem has_unprintable_of_lt (hc : c.toNat < 0x20) : unprintable.has c = true := by
  have hcontrol : ((0x0, 0x1F) : Nat × Nat) ∈ unprintable := List.mem_cons_self
  refine List.any_eq_true.2 ⟨_, hcontrol, ?_⟩
  have hle : c.toNat ≤ 0x1F := Nat.lt_succ_iff.1 hc
  simp [hle]

theorem visible_quotedChar (c : Char) : Visible (quotedChar c) := by
  rw [quotedChar.eq_def]
  split
  case h_7 =>
    split
    · simp [byNumber, hex, visible_toDigits]
    · next hshown =>
      have hle : 0x20 ≤ c.toNat := by
        by_contra hlt
        exact hshown (by rw [has_unprintable_of_lt (Nat.lt_of_not_le hlt), Bool.or_true])
      simpa using hle
  all_goals simp

/-- **A quoted text** is visible throughout. -/
theorem visible_quoted (s : String) : Visible (quoted s).toList := by
  simp [quoted, visible_flatMap visible_quotedChar]

end Text

open Text (lineEnds_of_visible visible_intercalate visible_quoted)

theorem visible_shownMap (entries : KeyMap String) : Visible (shownMap entries).toList := by
  have hentries : Visible (", ".intercalate (entries.map fun entry ↦
      quoted entry.1 ++ ": " ++ quoted entry.2)).toList := by
    refine visible_intercalate (by simp) (List.forall_mem_map.2 fun entry _ ↦ ?_)
    simp [visible_quoted]
  rw [shownMap, String.toList_append, String.toList_append, visible_append, visible_append]
  exact ⟨⟨by simp, hentries⟩, by simp⟩

/-! ## Messages -/

theorem visible_messageChar (h : drivesTerminal c = true) : Visible (messageChar c) := by
  rw [messageChar, if_pos h]
  split
  · simp [hexPair, le_toNat_digitChar]
  · simp [visible_toDigits]

theorem count_messageChar (c : Char) : (messageChar c).count '\n' = [c].count '\n' := by
  cases hdrives : drivesTerminal c with
  | false => simp [messageChar, hdrives]
  | true =>
    have hc : c ≠ '\n' := by
      rintro rfl
      exact absurd hdrives (by decide)
    have hnone : '\n' ∉ messageChar c := (visible_messageChar hdrives).notMem (by decide)
    rw [List.count_eq_zero.2 hnone, List.count_singleton, beq_false_of_ne hc]
    rfl

/-- **A message** keeps its line ends in a text line. -/
theorem lineEnds_messageText (s : String) : lineEnds (messageText s) = lineEnds s := by
  rw [messageText, lineEnds_ofList, lineEnds]
  induction s.toList with
  | nil => rfl
  | cons c cs ih =>
    rw [List.flatMap_cons, List.count_append, count_messageChar, ih, ← List.count_append,
      List.singleton_append]

namespace Failure

/-- A derived message has a line for each record, and one more for each line end in a rule or a
message. -/
theorem lineEnds_derivedMessage_add_one {records : List ErrorRecord} (hne : records ≠ []) :
    lineEnds (derivedMessage records) + 1 =
      (records.map fun record ↦ lineEnds record.rule + lineEnds record.message + 1).sum := by
  have hentries : records.map ErrorRecord.entry ≠ [] := by simpa using hne
  have hjoined := lineEnds_intercalate_add ",\n" hentries
  have hsep : lineEnds ",\n" = 1 := by decide
  have hcolon : lineEnds ": " = 0 := by decide
  rw [hsep, List.map_map] at hjoined
  rw [derivedMessage_eq, hjoined]
  congr 1
  refine List.map_congr_left fun record _ ↦ ?_
  simp [ErrorRecord.entry, hcolon]

/-! ## The line of a failure -/

/-- What stands in front of the message in the text line of a failure. -/
def lineHead (failure : Failure) : String :=
  timeMark ++ " " ++ failure.event.level.aligned ++ " " ++ target ++ ": " ++ failure.event.message
    ++ " failure_kind=" ++ failure.kind.title ++ " "

def lineTail (failure : Failure) : String :=
  match failure.fieldMap? with
  | none => ""
  | some fields =>
    " records=" ++ String.ofList (Nat.toDigits 10 failure.records.length)
      ++ " fields=" ++ shownMap fields

/-- **The text line of a failure.** -/
theorem fileLine_event (failure : Failure) :
    failure.event.fileLine =
      failure.lineHead ++ messageText failure.message ++ failure.lineTail := by
  have hsimple : messageText "Failure occurred" = "Failure occurred" := by decide
  have hvalidation : messageText "Validation failure" = "Validation failure" := by decide
  rw [← String.toList_inj]
  cases failure with
  | simple kind message =>
    simp [Event.fileLine, Event.textLine, Event.fields, event, fieldMap?, fieldText,
      FieldValue.inText, hsimple, lineHead, lineTail, Failure.message]
  | validation kind message records =>
    simp [Event.fileLine, Event.textLine, Event.fields, event, fieldMap?, fieldText,
      FieldValue.inText, hvalidation, lineHead, lineTail, Failure.message, Failure.records]

theorem visible_title (kind : FailureKind) : Visible kind.title.toList := by
  cases kind with
  | simple kind => cases kind <;> simp [FailureKind.title, SimpleKind.title, SimpleKind.name]
  | validation kind =>
    cases kind <;> simp [FailureKind.title, ValidationKind.title, ValidationKind.name]

theorem visible_aligned (level : Level) : Visible level.aligned.toList := by
  cases level <;> simp [Level.aligned, Level.name]

theorem visible_lineHead (failure : Failure) : Visible failure.lineHead.toList := by
  have hmessage : Visible failure.event.message.toList := by
    cases failure <;> simp [event, fieldMap?]
  simp [lineHead, timeMark, target, hmessage, visible_aligned, visible_title]

theorem visible_lineTail (failure : Failure) : Visible failure.lineTail.toList := by
  cases failure with
  | simple kind message => simp [lineTail, fieldMap?]
  | validation kind message records =>
    simp [lineTail, fieldMap?, visible_toDigits, visible_shownMap]

/-- **The lines of a failure**: the first one begins with the head, and there is a further one for
each line end in the message. -/
theorem exists_textLines_fileLine (failure : Failure) : ∃ first rest,
    textLines (messageText failure.message ++ failure.lineTail ++ "\n") = first :: rest ∧
      rest.length = lineEnds failure.message ∧
      textLines (failure.event.fileLine ++ "\n") = (failure.lineHead ++ first) :: rest := by
  have hlength := Content.length_textLines (messageText failure.message ++ failure.lineTail)
  rw [lineEnds_append, lineEnds_messageText, lineEnds_of_visible failure.visible_lineTail,
    Nat.add_zero] at hlength
  obtain ⟨first, rest, hlines⟩ := List.exists_cons_of_length_eq_add_one hlength
  refine ⟨first, rest, hlines, ?_, ?_⟩
  · rw [hlines, List.length_cons] at hlength
    exact Nat.succ_inj.1 hlength
  · have hend : '\n' ∉ failure.lineHead.toList := failure.visible_lineHead.notMem (by decide)
    have hreturn : '\r' ∉ failure.lineHead.toList := failure.visible_lineHead.notMem (by decide)
    have hline : failure.event.fileLine ++ "\n" =
        failure.lineHead ++ (messageText failure.message ++ failure.lineTail ++ "\n") := by
      rw [fileLine_event]
      simp only [String.append_assoc]
    rw [hline, Content.textLines_append_of_notMem hend hreturn hlines]

end Failure

end MonitorCore

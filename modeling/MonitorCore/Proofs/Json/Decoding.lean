import MonitorCore.Failure.Format
import MonitorCore.Failure.Kind
import MonitorCore.Logging.Config
import MonitorCore.Proofs.Json.Enumeration
import MonitorCore.Proofs.Json.RecordText
import MonitorCore.Series.Format

/-!
# Decoding from text and from values

All formats of the platform are built from a few: names, texts, identifiers, flags, optional values,
lists and records. Each of these is read alike from texts and from values, so all are. What a text
means to a type is then told by its value alone, if no object in it repeats a key.
-/

namespace MonitorCore

open Json (Format RecordFormat Slot Value depthLimit readText readValue)

/-! ## Whole texts -/

namespace Json

variable {α : Type} {format : Format α} {s : String} {v : Value}

theorem readText_eq_some {cs : List Char} :
    readText cs = some v ↔
      ∃ rest, readValue depthLimit cs = .ok (v, rest) ∧ (skipGaps rest).isEmpty = true := by
  rw [readText]
  constructor
  · intro h
    split at h
    · next value rest hread =>
      split_ifs at h with hrest
      obtain rfl := Option.some.inj h
      exact ⟨rest, hread, hrest⟩
    · exact absurd h nofun
  · rintro ⟨rest, hread, hrest⟩
    rw [hread]
    exact if_pos hrest

theorem Format.AgreesAt.parse_eq_ok_iff (h : format.AgreesAt depthLimit)
    (hv : readText s.toList = some v) (hunrepeated : v.Unrepeated) (x : α) :
    format.parse s = .ok x ↔ format.ofValue v.canonical = .ok x := by
  obtain ⟨rest, hread, hrest⟩ := readText_eq_some.1 hv
  have hgives := h hread hunrepeated
  rw [Format.parse, ← toOption_eq_some, ← toOption_eq_some]
  cases hvalue : (format.ofValue v.canonical).toOption with
  | none =>
    rw [hvalue] at hgives
    obtain ⟨fault, hfault⟩ := hgives
    rw [hfault, toOption_error]
  | some y =>
    rw [hvalue] at hgives
    have hread : format.ofText s.toList = .ok (y, rest) := hgives
    simp only [hread, hrest, if_pos, toOption_ok]

end Json

open Json Format

/-! ## Each format agrees -/

theorem Temporality.agreesAt_format (depth : Nat) : format.AgreesAt depth :=
  variants.agreesAt_format depth

theorem SimpleKind.agreesAt_format (depth : Nat) : format.AgreesAt depth :=
  variants.agreesAt_format depth

theorem ValidationKind.agreesAt_format (depth : Nat) : format.AgreesAt depth :=
  variants.agreesAt_format depth

theorem FailureKind.agreesAt_format : format.AgreesAt depthLimit :=
  (agreesAt_eitherVariant ..).along ..

namespace ErrorRecord

theorem independent : recordFormat.Independent := by
  simp only [RecordFormat.Independent, recordFormat, List.pairwise_cons, List.forall_mem_cons,
    List.not_mem_nil, false_imp_iff, implies_true, and_true, List.Pairwise.nil]
  and_intros <;> exact Slot.apart_of (by decide) fun _ _ _ ↦ rfl

theorem agreesAt_format (depth : Nat) : format.AgreesAt depth := by
  refine RecordFormat.agreesAt_toFormat independent ?_ depth
  simp only [recordFormat, List.forall_mem_cons, List.not_mem_nil, false_imp_iff, implies_true,
    and_true]
  exact ⟨fun depth ↦ (agreesAt_text depth).slot ..,
    fun depth ↦ (agreesAt_text depth).slot ..,
    fun depth ↦ (agreesAt_text depth).slot ..⟩

end ErrorRecord

namespace DataSet

theorem independent : recordFormat.Independent := List.pairwise_singleton ..

theorem agreesAt_format (depth : Nat) : format.AgreesAt depth :=
  RecordFormat.agreesAt_toFormat independent
    (List.forall_mem_singleton.2 fun depth ↦ (agreesAt_id depth).slot ..) depth

end DataSet

namespace DataSeries

theorem independent : recordFormat.Independent := by
  simp only [RecordFormat.Independent, recordFormat, List.pairwise_cons, List.forall_mem_cons,
    List.not_mem_nil, false_imp_iff, implies_true, and_true, List.Pairwise.nil]
  and_intros <;> exact Slot.apart_of (by decide) fun _ _ _ ↦ rfl

theorem agreesAt_format (depth : Nat) : format.AgreesAt depth := by
  refine RecordFormat.agreesAt_toFormat independent ?_ depth
  simp only [recordFormat, List.forall_mem_cons, List.not_mem_nil, false_imp_iff, implies_true,
    and_true]
  exact ⟨fun depth ↦ (agreesAt_id depth).slot ..,
    fun depth ↦ (agreesAt_text depth).slot ..,
    fun depth ↦ (Temporality.agreesAt_format depth).slot ..,
    fun depth ↦ (AgreesAt.list DataSet.agreesAt_format depth).slot ..⟩

end DataSeries

namespace Analysis

theorem independent : recordFormat.Independent := by
  simp only [RecordFormat.Independent, recordFormat, List.pairwise_cons, List.forall_mem_cons,
    List.not_mem_nil, false_imp_iff, implies_true, and_true, List.Pairwise.nil]
  and_intros <;> exact Slot.apart_of (by decide) fun _ _ _ ↦ rfl

theorem agreesAt_format (depth : Nat) : format.AgreesAt depth := by
  refine RecordFormat.agreesAt_toFormat independent ?_ depth
  simp only [recordFormat, List.forall_mem_cons, List.not_mem_nil, false_imp_iff, implies_true,
    and_true]
  exact ⟨fun depth ↦ (agreesAt_id depth).slot ..,
    fun depth ↦ (agreesAt_text depth).slot ..,
    fun depth ↦ (agreesAt_id depth).slot ..⟩

end Analysis

namespace LoggingConfig

theorem independent : recordFormat.Independent := by
  simp only [RecordFormat.Independent, recordFormat, List.pairwise_cons, List.forall_mem_cons,
    List.not_mem_nil, false_imp_iff, implies_true, and_true, List.Pairwise.nil]
  and_intros <;> exact Slot.apart_of (by decide) fun _ _ _ ↦ rfl

theorem agreesAt_format (depth : Nat) : format.AgreesAt depth := by
  refine RecordFormat.agreesAt_toFormat independent ?_ depth
  simp only [recordFormat, List.forall_mem_cons, List.not_mem_nil, false_imp_iff, implies_true,
    and_true]
  exact ⟨fun depth ↦ (agreesAt_text depth).slot ..,
    fun depth ↦ (agreesAt_text depth).slot ..,
    fun depth ↦ (agreesAt_flag depth).slot ..,
    fun depth ↦ (agreesAt_text depth).optional.slot ..,
    fun depth ↦ (agreesAt_flag depth).slot ..⟩

end LoggingConfig

namespace CoreConfig

theorem independent : recordFormat.Independent := List.pairwise_singleton ..

theorem agreesAt_format (depth : Nat) : format.AgreesAt depth :=
  RecordFormat.agreesAt_toFormat independent
    (List.forall_mem_singleton.2 fun depth ↦ (LoggingConfig.agreesAt_format depth).slot ..) depth

end CoreConfig

/-! ## What a text means -/

/-- A type reads a text alike in both ways: directly, and from the value of the text. -/
def Json.Format.ReadsAlike {α : Type} (format : Format α) (s : String) : Prop :=
  ∀ x, format.parse s = .ok x ↔ (Json.parse s).map format.ofValue = some (.ok x)

theorem Json.Format.AgreesAt.readsAlike {α : Type} {format : Format α}
    (h : format.AgreesAt depthLimit) {s : String} {v : Value} (hv : readText s.toList = some v)
    (hunrepeated : v.Unrepeated) : format.ReadsAlike s := by
  intro x
  rw [h.parse_eq_ok_iff hv hunrepeated, Json.parse, hv, Option.map_some, Option.map_some,
    Option.some_inj]

/-- **Text and value mean the same.** If a text is the text of a value in which no object repeats a
key, each type reads the same from both. -/
theorem readsAlike_all {s : String} {v : Value} (hv : readText s.toList = some v)
    (hunrepeated : v.Unrepeated) :
    ErrorRecord.format.ReadsAlike s ∧ DataSet.format.ReadsAlike s ∧
    DataSeries.format.ReadsAlike s ∧ Analysis.format.ReadsAlike s ∧
    Temporality.format.ReadsAlike s ∧ SimpleKind.format.ReadsAlike s ∧
    ValidationKind.format.ReadsAlike s ∧ FailureKind.format.ReadsAlike s ∧
    LoggingConfig.format.ReadsAlike s ∧ CoreConfig.format.ReadsAlike s :=
  ⟨(ErrorRecord.agreesAt_format _).readsAlike hv hunrepeated,
    (DataSet.agreesAt_format _).readsAlike hv hunrepeated,
    (DataSeries.agreesAt_format _).readsAlike hv hunrepeated,
    (Analysis.agreesAt_format _).readsAlike hv hunrepeated,
    (Temporality.agreesAt_format _).readsAlike hv hunrepeated,
    (SimpleKind.agreesAt_format _).readsAlike hv hunrepeated,
    (ValidationKind.agreesAt_format _).readsAlike hv hunrepeated,
    FailureKind.agreesAt_format.readsAlike hv hunrepeated,
    (LoggingConfig.agreesAt_format _).readsAlike hv hunrepeated,
    (CoreConfig.agreesAt_format _).readsAlike hv hunrepeated⟩

/-- A series whose members are out of order, one of them unknown and one left out. -/
theorem readsAlike_unordered_series :
    DataSeries.format.ReadsAlike
      "\x7b \"temporality\": \"STATIC\", \"more\": [\x7b\x7d], \"id\": 18446744073709551615 \x7d" ∧
    DataSeries.format.parse
      "\x7b \"temporality\": \"STATIC\", \"more\": [\x7b\x7d], \"id\": 18446744073709551615 \x7d" =
        .ok ⟨18446744073709551615, "", .static, []⟩ := by
  have hvalue : readText
      "\x7b \"temporality\": \"STATIC\", \"more\": [\x7b\x7d], \"id\": 18446744073709551615 \x7d".toList =
        some (.object [("temporality", .text "STATIC"), ("more", .array [.object []]),
          ("id", .ofNat 18446744073709551615)]) := rfl
  have halike := readsAlike_all hvalue
    (by simp [Value.Unrepeated, Value.UnrepeatedMembers, Value.UnrepeatedItems, Value.ofNat])
  exact ⟨halike.2.2.1, rfl⟩

end MonitorCore

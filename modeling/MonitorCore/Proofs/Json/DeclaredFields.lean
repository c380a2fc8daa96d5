import MonitorCore.Failure.Format
import MonitorCore.Logging.Config
import MonitorCore.Proofs.Json.ObjectForm
import MonitorCore.Series.Format

/-!
# The fields that the types declare

Six types are decoded by the rules of their fields. What a field wants may again be such a record or
a list of them, and the same rules then hold of these, at every depth.
-/

namespace MonitorCore

open Json (Value Format Mismatch First FieldRule Misfit Unfit DecodesByKey RecordFormat)
open Text (KeyMap)

/-! ## Lists -/

/-- Arrays are decoded item by item: into the values of all items, or with the fault of the first
item that does not decode. -/
structure Json.DecodesItems {α : Type} (format : Format α) : Prop where
  eq_ok_iff : ∀ items xs, (Format.list format).ofValue (.array items) = .ok xs ↔
    List.Forall₂ (fun v x ↦ format.ofValue v = .ok x) items xs
  eq_error_iff : ∀ items reason, (Format.list format).ofValue (.array items) = .error reason ↔
    ∃ v, First (fun v ↦ ∃ other, format.ofValue v = .error other) items v ∧
      format.ofValue v = .error reason

namespace Json.Format

variable {α : Type} (format : Format α)

theorem listOfValues_eq_ok_iff (items : List Value) (xs : List α) :
    listOfValues format items = .ok xs ↔
      List.Forall₂ (fun v x ↦ format.ofValue v = .ok x) items xs := by
  induction items generalizing xs with
  | nil => simp [listOfValues, eq_comm]
  | cons v items ih =>
    rw [listOfValues, List.forall₂_cons_left_iff]
    cases hv : format.ofValue v with
    | error reason => simp
    | ok x =>
      rw [map_eq_ok]
      simp only [ih, Except.ok.injEq, exists_and_left, exists_eq_left', eq_comm]

theorem listOfValues_eq_error_iff (items : List Value) (reason : Mismatch) :
    listOfValues format items = .error reason ↔
      ∃ v, First (fun v ↦ ∃ other, format.ofValue v = .error other) items v ∧
        format.ofValue v = .error reason := by
  induction items with
  | nil => simp [listOfValues, First]
  | cons v items ih =>
    rw [listOfValues]
    cases hv : format.ofValue v with
    | error other => simp [First.cons_iff, hv]
    | ok x =>
      have hrest : (listOfValues format items).map (x :: ·) = .error reason ↔
          listOfValues format items = .error reason := by
        cases listOfValues format items <;> simp [Except.map]
      simp [First.cons_iff, hv, hrest, ih]

/-- **Lists** are decoded item by item. -/
theorem decodesItems : DecodesItems format where
  eq_ok_iff := listOfValues_eq_ok_iff format
  eq_error_iff := listOfValues_eq_error_iff format

end Json.Format

/-! ## The types -/

namespace ErrorRecord

def fieldRules : List (FieldRule ErrorRecord) :=
  [⟨"path", .text, none, path⟩, ⟨"type", .text, none, rule⟩, ⟨"message", .text, none, message⟩]

theorem fills : recordFormat.Fills fieldRules where
  slots := by
    refine .cons ?_ (.cons ?_ (.cons ?_ .nil)) <;>
      exact FieldRule.filledBy_of (fun _ _ ↦ rfl) (by simp [fieldRules])
  keys := by decide
  blank := by simp [fieldRules]
  ext {record other} h := by
    cases record
    cases other
    simpa [fieldRules] using h

theorem decodesByKey : DecodesByKey fieldRules format :=
  fills.decodesByKey (by simp [fieldRules])

end ErrorRecord

namespace DataSet

def fieldRules : List (FieldRule DataSet) := [⟨"id", .id, none, id⟩]

theorem fills : recordFormat.Fills fieldRules where
  slots := .cons (FieldRule.filledBy_of (fun _ _ ↦ rfl) (by simp [fieldRules])) .nil
  keys := by decide
  blank := by simp [fieldRules]
  ext {record other} h := by
    cases record
    cases other
    simpa [fieldRules] using h

theorem decodesByKey : DecodesByKey fieldRules format :=
  fills.decodesByKey (by simp [fieldRules])

end DataSet

namespace DataSeries

def fieldRules : List (FieldRule DataSeries) :=
  [⟨"id", .id, none, id⟩, ⟨"name", .text, some "", name⟩,
   ⟨"temporality", Temporality.format, none, temporality⟩,
   ⟨"data_sets", .list DataSet.format, some [], dataSets⟩]

theorem fills : recordFormat.Fills fieldRules where
  slots := by
    refine .cons ?_ (.cons ?_ (.cons ?_ (.cons ?_ .nil))) <;>
      exact FieldRule.filledBy_of (fun _ _ ↦ rfl) (by simp [fieldRules])
  keys := by decide
  blank := by simp [fieldRules, recordFormat]
  ext {record other} h := by
    cases record
    cases other
    simpa [fieldRules] using h

theorem decodesByKey : DecodesByKey fieldRules format :=
  fills.decodesByKey (by simp [fieldRules, Format.text, Format.list])

end DataSeries

namespace Analysis

def fieldRules : List (FieldRule Analysis) :=
  [⟨"id", .id, none, id⟩, ⟨"name", .text, some "", name⟩,
   ⟨"dataset_output_id", .id, none, outputId⟩]

theorem fills : recordFormat.Fills fieldRules where
  slots := by
    refine .cons ?_ (.cons ?_ (.cons ?_ .nil)) <;>
      exact FieldRule.filledBy_of (fun _ _ ↦ rfl) (by simp [fieldRules])
  keys := by decide
  blank := by simp [fieldRules, recordFormat]
  ext {record other} h := by
    cases record
    cases other
    simpa [fieldRules] using h

theorem decodesByKey : DecodesByKey fieldRules format :=
  fills.decodesByKey (by simp [fieldRules, Format.text])

end Analysis

namespace LoggingConfig

/-- The fields of the configuration of logging. -/
def fieldRules : List (FieldRule LoggingConfig) :=
  [⟨"level", .text, some "info", level⟩, ⟨"service_name", .text, some "geomon-core", serviceName⟩,
   ⟨"file_output", .flag, some false, fileOutput⟩,
   ⟨"log_dir", .optional .text, some none, logDir⟩,
   ⟨"json_format", .flag, some true, jsonFormat⟩]

theorem fills : recordFormat.Fills fieldRules where
  slots := by
    refine .cons ?_ (.cons ?_ (.cons ?_ (.cons ?_ (.cons ?_ .nil)))) <;>
      exact FieldRule.filledBy_of (fun _ _ ↦ rfl) (by simp [fieldRules])
  keys := by decide
  blank := by simp [fieldRules, recordFormat, default]
  ext {record other} h := by
    cases record
    cases other
    simpa [fieldRules] using h

theorem decodesByKey : DecodesByKey fieldRules format :=
  fills.decodesByKey (by simp [fieldRules, Format.text, Format.flag])

end LoggingConfig

namespace CoreConfig

/-- The fields of the configuration of the platform. -/
def fieldRules : List (FieldRule CoreConfig) :=
  [⟨"logging", LoggingConfig.format, some .default, logging⟩]

theorem fills : recordFormat.Fills fieldRules where
  slots := .cons (FieldRule.filledBy_of (fun _ _ ↦ rfl) (by simp [fieldRules])) .nil
  keys := by decide
  blank := by simp [fieldRules, recordFormat, default, LoggingConfig.default]
  ext {record other} h := by
    cases record
    cases other
    simpa [fieldRules] using h

theorem decodesByKey : DecodesByKey fieldRules format :=
  fills.decodesByKey
    (by simp [fieldRules, LoggingConfig.format, RecordFormat.toFormat, RecordFormat.ofValue])

end CoreConfig

/-! ## Every type -/

theorem Json.Mismatch.message_missingField (key : String) :
    (Mismatch.missingField key).message = "missing field `" ++ key ++ "`" := by
  have hmessage : (Mismatch.missingField key).message = "missing field " ++ ticked key := rfl
  have hbegin : "missing field " ++ "`" = "missing field `" := by decide
  rw [hmessage, ticked, ← hbegin]
  simp only [String.append_assoc]

/-- **Decoding by the declared fields.** Each of the six types is decoded by the rules of its
fields, and so are the records that fields hold: that of logging within the configuration, and the
data sets in the list of a series, one after the other. Null is none at the type of the one field
that is optional. The text for a field that is absent names it. -/
theorem decodesByKey_all :
    DecodesByKey ErrorRecord.fieldRules ErrorRecord.format ∧
    DecodesByKey DataSet.fieldRules DataSet.format ∧
    DecodesByKey DataSeries.fieldRules DataSeries.format ∧
    DecodesByKey Analysis.fieldRules Analysis.format ∧
    DecodesByKey LoggingConfig.fieldRules LoggingConfig.format ∧
    DecodesByKey CoreConfig.fieldRules CoreConfig.format ∧
    Json.DecodesItems DataSet.format ∧
    (Format.optional Format.text).ofValue .null = .ok none ∧
    ∀ key, (Mismatch.missingField key).message = "missing field `" ++ key ++ "`" :=
  ⟨ErrorRecord.decodesByKey, DataSet.decodesByKey, DataSeries.decodesByKey, Analysis.decodesByKey,
    LoggingConfig.decodesByKey, CoreConfig.decodesByKey, Format.decodesItems DataSet.format, rfl,
    Mismatch.message_missingField⟩

/-- There are four faults: the second data set has no identifier, the name is null, and the
identifier and the temporality of the series are absent. The data sets have the first key, so it is
their fault that is reported. Without the two members that do not decode the same is said of the
series, whose identifier is declared first. With the two fields that are required there is a series
whose name and list have their defaults. -/
theorem decodesByKey_all_of_faults :
    let unknown : KeyMap Value := [("other", .bool true)]
    let sets : Value := .array [.object [("id", .ofNat 1)], .object []]
    let faulty : KeyMap Value := ("data_sets", sets) :: ("name", .null) :: unknown
    let members : KeyMap Value := ("id", .ofNat 7) :: unknown ++ [("temporality", .text "STATIC")]
    DataSeries.format.ofValue (.object faulty) = .error (.missingField "id") ∧
      Misfit DataSeries.fieldRules ("data_sets", sets) (.missingField "id") ∧
      Misfit DataSeries.fieldRules ("name", .null) (.wrongType .null "a string") ∧
      DataSeries.format.ofValue (.object unknown) = .error (.missingField "id") ∧
      DataSeries.format.ofValue (.object members) = .ok ⟨7, "", .static, []⟩ := by
  intro unknown sets faulty members
  have hfaulty : faulty.Ordered := by
    unfold KeyMap.Ordered
    decide
  have hmembers : members.Ordered := by
    unfold KeyMap.Ordered
    decide
  obtain ⟨-, -, hseries, -, -, -, hitems, -⟩ := decodesByKey_all
  have hset : DataSet.format.ofValue (.object []) = .error (.missingField "id") := rfl
  have hsets : (Format.list DataSet.format).ofValue sets = .error (.missingField "id") :=
    (hitems.eq_error_iff _ _).mpr ⟨.object [], (First.head ⟨_, hset⟩ []).cons nofun, hset⟩
  have hmisfit : Misfit DataSeries.fieldRules ("data_sets", sets) (.missingField "id") :=
    ⟨_, .tail _ (.tail _ (.tail _ (.head _))), rfl, hsets⟩
  have hfits : ∀ member ∈ unknown, ¬ Unfit DataSeries.fieldRules member := by
    simp [unknown, Unfit, Misfit, DataSeries.fieldRules]
  refine ⟨?_, hmisfit, ⟨_, .tail _ (.head _), rfl, rfl⟩, ?_, ?_⟩
  · exact (hseries.eq_error_iff hfaulty _).mpr
      (.inl ⟨("data_sets", sets), .head ⟨_, hmisfit⟩ _, hmisfit⟩)
  · exact (hseries.eq_error_iff (List.pairwise_singleton ..) _).mpr
      (.inr ⟨hfits, _, .head ⟨rfl, rfl⟩ _, rfl⟩)
  · refine (hseries.eq_ok_iff hmembers _).mpr ?_
    simp only [DataSeries.fieldRules, List.forall_mem_cons]
    exact ⟨rfl, rfl, rfl, rfl, nofun⟩

end MonitorCore

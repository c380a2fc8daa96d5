import MonitorCore.Proofs.Json.BothForms

/-!
# The forms of the declared records

The six types are read from either form of a record, and so are the records that their fields hold:
that of logging within the configuration, and the data sets in the list of a series. This holds of
values and of texts, and of texts without a condition on their keys: whether a key is repeated is
seen by both forms alike.
-/

namespace MonitorCore

open Json (Value Format Outline RecordFormat readText depthLimit)
open Json.Format

/-! ## Whole texts -/

theorem Json.Format.ReadsAt.parse_eq_ok_iff {α : Type} {format : Format α}
    (h : format.ReadsAt depthLimit) {s : String} {v : Value} (hv : readText s.toList = some v)
    (x : α) : format.parse s = .ok x ↔ format.ofValue v = .ok x := by
  obtain ⟨rest, hread, hrest⟩ := Json.readText_eq_some.1 hv
  have hgives := h hread
  rw [Format.parse]
  cases hvalue : format.ofValue v with
  | error reason =>
    rw [hvalue] at hgives
    obtain ⟨fault, hfault⟩ := hgives
    simp [hfault]
  | ok y =>
    rw [hvalue] at hgives
    have hread : format.ofText s.toList = .ok (y, rest) := hgives
    simp [hread, hrest]

/-- Records with these fields are read from arrays as from objects, at every depth. -/
structure Json.TakesBothForms {ρ : Type} (fields : List (String × Outline)) (format : Format ρ) :
    Prop where
  /-- An array decodes if it has no more elements than there are fields and the object decodes that
  gives them to the first fields, and then to the same record. -/
  array_eq_ok_iff : ∀ {items members}, members.Perm ((fields.map Prod.fst).zip items) →
    ∀ record, format.ofValue (.array items) = .ok record ↔
      items.length ≤ fields.length ∧ format.ofValue (.object members) = .ok record
  /-- Values that differ only in the forms of the records within decode alike. -/
  eq_ok_iff_of_sameBut : ∀ {v w}, (Outline.record fields).SameBut v w →
    ∀ record, format.ofValue v = .ok record ↔ format.ofValue w = .ok record
  /-- The same of the text of an array and the text of an object. -/
  parse_array_eq_ok_iff : ∀ {s t items members}, readText s.toList = some (.array items) →
    readText t.toList = some (.object members) →
    members.Perm ((fields.map Prod.fst).zip items) →
    ∀ record, format.parse s = .ok record ↔
      items.length ≤ fields.length ∧ format.parse t = .ok record
  /-- The same of the texts of values that differ only in the forms of the records within. -/
  parse_eq_ok_iff_of_sameBut : ∀ {s t v w}, readText s.toList = some v →
    readText t.toList = some w → (Outline.record fields).SameBut v w →
    ∀ record, format.parse s = .ok record ↔ format.parse t = .ok record

theorem Json.RecordFormat.Outlined.takesBothForms {ρ : Type} {format : RecordFormat ρ}
    {fields : List (String × Outline)} (h : format.Outlined fields)
    (hindependent : format.Independent) (hreads : format.toFormat.ReadsAt depthLimit) :
    TakesBothForms fields format.toFormat where
  array_eq_ok_iff hperm record := by
    have hlength : fields.length = format.keys.length := by rw [← h.keys, List.length_map]
    rw [hlength]
    exact RecordFormat.ofValue_array_eq_ok_iff hindependent (h.keys ▸ hperm) record
  eq_ok_iff_of_sameBut := (h.follows hindependent).ofValue_eq_ok_iff
  parse_array_eq_ok_iff {s t items members} hs ht hperm record := by
    have hlength : fields.length = format.keys.length := by rw [← h.keys, List.length_map]
    rw [hreads.parse_eq_ok_iff hs, hreads.parse_eq_ok_iff ht, hlength]
    exact RecordFormat.ofValue_array_eq_ok_iff hindependent (h.keys ▸ hperm) record
  parse_eq_ok_iff_of_sameBut hs ht hvw record := by
    rw [hreads.parse_eq_ok_iff hs, hreads.parse_eq_ok_iff ht]
    exact (h.follows hindependent).ofValue_eq_ok_iff hvw record

/-! ## The types -/

namespace ErrorRecord

def fieldOutlines : List (String × Outline) :=
  [("path", .plain), ("type", .plain), ("message", .plain)]

theorem outlined : recordFormat.Outlined fieldOutlines where
  keys := rfl
  slots := by
    simp only [fieldOutlines, List.forall_mem_cons]
    exact ⟨⟨_, rfl, (follows_plain _).slot ..⟩, ⟨_, rfl, (follows_plain _).slot ..⟩,
      ⟨_, rfl, (follows_plain _).slot ..⟩, nofun⟩

theorem readsAt_format (depth : Nat) : format.ReadsAt depth := by
  refine RecordFormat.readsAt_toFormat (agreesAt_format depth) ?_
  simp only [recordFormat, List.forall_mem_cons]
  exact ⟨fun depth ↦ (readsAt_text depth).slot .., fun depth ↦ (readsAt_text depth).slot ..,
    fun depth ↦ (readsAt_text depth).slot .., List.forall_mem_nil _⟩

end ErrorRecord

namespace DataSet

def fieldOutlines : List (String × Outline) := [("id", .plain)]

theorem outlined : recordFormat.Outlined fieldOutlines where
  keys := rfl
  slots := List.forall_mem_singleton.2 ⟨_, rfl, (follows_plain _).slot ..⟩

theorem readsAt_format (depth : Nat) : format.ReadsAt depth :=
  RecordFormat.readsAt_toFormat (agreesAt_format depth)
    (List.forall_mem_singleton.2 fun depth ↦ (readsAt_id depth).slot ..)

theorem follows_format : format.Follows (.record fieldOutlines) := outlined.follows independent

end DataSet

namespace DataSeries

/-- The fields of a data series, the last of which is a list of records. -/
def fieldOutlines : List (String × Outline) :=
  [("id", .plain), ("name", .plain), ("temporality", .plain),
   ("data_sets", .list (.record DataSet.fieldOutlines))]

theorem outlined : recordFormat.Outlined fieldOutlines where
  keys := rfl
  slots := by
    simp only [fieldOutlines, List.forall_mem_cons]
    exact ⟨⟨_, rfl, (follows_plain _).slot ..⟩, ⟨_, rfl, (follows_plain _).slot ..⟩,
      ⟨_, rfl, (follows_plain _).slot ..⟩, ⟨_, rfl, DataSet.follows_format.list.slot ..⟩, nofun⟩

theorem readsAt_format (depth : Nat) : format.ReadsAt depth := by
  refine RecordFormat.readsAt_toFormat (agreesAt_format depth) ?_
  simp only [recordFormat, List.forall_mem_cons]
  exact ⟨fun depth ↦ (readsAt_id depth).slot .., fun depth ↦ (readsAt_text depth).slot ..,
    fun depth ↦ (Temporality.variants.readsAt_format depth).slot ..,
    fun depth ↦ (ReadsAt.list DataSet.readsAt_format DataSet.agreesAt_format depth).slot ..,
    List.forall_mem_nil _⟩

end DataSeries

namespace Analysis

def fieldOutlines : List (String × Outline) :=
  [("id", .plain), ("name", .plain), ("dataset_output_id", .plain)]

theorem outlined : recordFormat.Outlined fieldOutlines where
  keys := rfl
  slots := by
    simp only [fieldOutlines, List.forall_mem_cons]
    exact ⟨⟨_, rfl, (follows_plain _).slot ..⟩, ⟨_, rfl, (follows_plain _).slot ..⟩,
      ⟨_, rfl, (follows_plain _).slot ..⟩, nofun⟩

theorem readsAt_format (depth : Nat) : format.ReadsAt depth := by
  refine RecordFormat.readsAt_toFormat (agreesAt_format depth) ?_
  simp only [recordFormat, List.forall_mem_cons]
  exact ⟨fun depth ↦ (readsAt_id depth).slot .., fun depth ↦ (readsAt_text depth).slot ..,
    fun depth ↦ (readsAt_id depth).slot .., List.forall_mem_nil _⟩

end Analysis

namespace LoggingConfig

/-- The fields of the configuration of logging. -/
def fieldOutlines : List (String × Outline) :=
  [("level", .plain), ("service_name", .plain), ("file_output", .plain), ("log_dir", .plain),
   ("json_format", .plain)]

theorem outlined : recordFormat.Outlined fieldOutlines where
  keys := rfl
  slots := by
    simp only [fieldOutlines, List.forall_mem_cons]
    exact ⟨⟨_, rfl, (follows_plain _).slot ..⟩, ⟨_, rfl, (follows_plain _).slot ..⟩,
      ⟨_, rfl, (follows_plain _).slot ..⟩, ⟨_, rfl, (follows_plain _).slot ..⟩,
      ⟨_, rfl, (follows_plain _).slot ..⟩, nofun⟩

theorem readsAt_format (depth : Nat) : format.ReadsAt depth := by
  refine RecordFormat.readsAt_toFormat (agreesAt_format depth) ?_
  simp only [recordFormat, List.forall_mem_cons]
  exact ⟨fun depth ↦ (readsAt_text depth).slot .., fun depth ↦ (readsAt_text depth).slot ..,
    fun depth ↦ (readsAt_flag depth).slot ..,
    fun depth ↦ (ReadsAt.optional readsAt_text (agreesAt_text depth)).slot ..,
    fun depth ↦ (readsAt_flag depth).slot .., List.forall_mem_nil _⟩

theorem follows_format : format.Follows (.record fieldOutlines) := outlined.follows independent

end LoggingConfig

namespace CoreConfig

/-- The field of the configuration of the platform, which is a record. -/
def fieldOutlines : List (String × Outline) :=
  [("logging", .record LoggingConfig.fieldOutlines)]

theorem outlined : recordFormat.Outlined fieldOutlines where
  keys := rfl
  slots := List.forall_mem_singleton.2 ⟨_, rfl, LoggingConfig.follows_format.slot ..⟩

theorem readsAt_format (depth : Nat) : format.ReadsAt depth :=
  RecordFormat.readsAt_toFormat (agreesAt_format depth)
    (List.forall_mem_singleton.2 fun depth ↦ (LoggingConfig.readsAt_format depth).slot ..)

end CoreConfig

/-- **Either form.** Each of the six types is read from an array as from the object that gives the
elements to its first fields, and records within may have either form as well. -/
theorem takesBothForms_all :
    Json.TakesBothForms ErrorRecord.fieldOutlines ErrorRecord.format ∧
    Json.TakesBothForms DataSet.fieldOutlines DataSet.format ∧
    Json.TakesBothForms DataSeries.fieldOutlines DataSeries.format ∧
    Json.TakesBothForms Analysis.fieldOutlines Analysis.format ∧
    Json.TakesBothForms LoggingConfig.fieldOutlines LoggingConfig.format ∧
    Json.TakesBothForms CoreConfig.fieldOutlines CoreConfig.format :=
  ⟨ErrorRecord.outlined.takesBothForms ErrorRecord.independent (ErrorRecord.readsAt_format _),
    DataSet.outlined.takesBothForms DataSet.independent (DataSet.readsAt_format _),
    DataSeries.outlined.takesBothForms DataSeries.independent (DataSeries.readsAt_format _),
    Analysis.outlined.takesBothForms Analysis.independent (Analysis.readsAt_format _),
    LoggingConfig.outlined.takesBothForms LoggingConfig.independent
      (LoggingConfig.readsAt_format _),
    CoreConfig.outlined.takesBothForms CoreConfig.independent (CoreConfig.readsAt_format _)⟩

/-- A series in array form, its first data set an array and its second one an object, is the same as
the one in object form whose data sets have the other form each, as values and as texts. A
configuration of logging in array form is refused for a sixth element. -/
theorem takesBothForms_all_of_mixed :
    let sets (first second : Value) : Value := .array [first, second]
    let items : List Value := [.ofNat 4, .text "fires", .text "DYNAMIC",
      sets (.array [.ofNat 20]) (.object [("id", .ofNat 21)])]
    let members (first second : Value) : List (String × Value) :=
      [("data_sets", sets first second), ("id", .ofNat 4), ("name", .text "fires"),
       ("temporality", .text "DYNAMIC")]
    let turned : List (String × Value) :=
      members (.object [("id", .ofNat 20)]) (.array [.ofNat 21])
    let series : DataSeries := ⟨4, "fires", .dynamic, [⟨20⟩, ⟨21⟩]⟩
    DataSeries.format.ofValue (.object turned) = .ok series ∧
      (Outline.record DataSeries.fieldOutlines).SameBut (.array items) (.object turned) ∧
      DataSeries.format.ofValue (.array items) = .ok series ∧
      readText "[4, \"fires\", \"DYNAMIC\", [[20], \x7b\"id\": 21\x7d]]".toList =
        some (.array items) ∧
      DataSeries.format.parse "[4, \"fires\", \"DYNAMIC\", [[20], \x7b\"id\": 21\x7d]]" =
        .ok series ∧
      ∀ config, LoggingConfig.format.ofValue (.array [.text "info", .text "core", .bool true, .null,
        .bool false, .null]) ≠ .ok config := by
  intro sets items members turned series
  obtain ⟨-, -, hseries, -, hlogging, -⟩ := takesBothForms_all
  have hread : readText "[4, \"fires\", \"DYNAMIC\", [[20], \x7b\"id\": 21\x7d]]".toList =
    some (.array items) := rfl
  have hturned : DataSeries.format.ofValue (.object turned) = .ok series := rfl
  -- the array becomes an object, then its first data set one, and its second an array
  have hsame :
      (Outline.record DataSeries.fieldOutlines).SameBut (.array items) (.object turned) := by
    have hperm : (members (.array [.ofNat 20]) (.object [("id", .ofNat 21)])).Perm
        ((DataSeries.fieldOutlines.map Prod.fst).zip items) :=
      (List.perm_append_singleton _ [("id", Value.ofNat 4), ("name", Value.text "fires"),
        ("temporality", Value.text "DYNAMIC")]).symm
    have hsets : ("data_sets", .list (.record DataSet.fieldOutlines)) ∈
        DataSeries.fieldOutlines := by simp [DataSeries.fieldOutlines]
    have hset : ∀ n, (Outline.record DataSet.fieldOutlines).Reforms (.array [.ofNat n])
        (.object [("id", .ofNat n)]) := fun n ↦ .turn (Nat.le_refl 1) (.refl _)
    refine .trans _ _ _ (.rel _ _ (.turn (by decide) hperm)) ?_
    refine .trans _ _ _ (.rel _ _ (@Outline.Reforms.member _ _ _ [] _ _ _ hsets
      (@Outline.Reforms.item _ [] _ _ _ (hset 20)))) ?_
    exact .symm _ _ (.rel _ _ (@Outline.Reforms.member _ _ _ [] _ _ _ hsets
      (@Outline.Reforms.item _ [.object [("id", .ofNat 20)]] [] _ _ (hset 21))))
  have hvalue := (hseries.eq_ok_iff_of_sameBut hsame series).mpr hturned
  refine ⟨hturned, hsame, hvalue, hread, ?_, ?_⟩
  · have hobject : readText ("\x7b\"data_sets\":[\x7b\"id\":20\x7d,[21]],\"id\":4," ++
        "\"name\":\"fires\",\"temporality\":\"DYNAMIC\"\x7d").toList = some (.object turned) := by
      rw [String.toList_append]
      rfl
    exact (hseries.parse_eq_ok_iff_of_sameBut hread hobject hsame series).mpr rfl
  · intro config hok
    exact absurd ((hlogging.array_eq_ok_iff (.refl _) config).mp hok).1 (by decide)

end MonitorCore

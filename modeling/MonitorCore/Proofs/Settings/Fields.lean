import MonitorCore.Proofs.Settings.Layers

/-!
# Fields from settings

What the configuration is depends on the settings of its fields alone. Each field has a value: its
setting converted, or its default where it has no setting (`valueOf`). The configuration is the one
with these values if all settings convert (`fromFields_eq_ok_iff`), in whatever order the fields are
set (`fromFields_perm`). If a setting does not convert, the order decides which one is reported, but
it is one of those (`fromFields_error`).
-/

namespace MonitorCore

namespace Setting

variable {α : Type} {fields : String → Option Setting} {root : Setting}

/-- The value of a field: its setting converted, or the default. -/
def valueOf (convert : Conversion α) (default : α) : Option Setting → Except String α
  | none => .ok default
  | some setting => convert setting

/-- The configuration of logging whose fields have the given settings. -/
def fromFields (fields : String → Option Setting) :
    List Field → LoggingConfig → Except ConversionError LoggingConfig
  | [], config => .ok config
  | field :: more, config =>
    match fields field.key with
    | none => fromFields fields more config
    | some setting =>
      match field.apply ("logging." ++ field.key) setting config with
      | .ok config => fromFields fields more config
      | .error reason => .error reason

theorem fromTable_eq_fromFields {table : Setting} (h : ∀ key, member? key table = fields key)
    (more : List Field) (config : LoggingConfig) :
    fromTable table more config = fromFields fields more config := by
  induction more generalizing config with
  | nil => rfl
  | cons field more ih =>
    rw [fromTable, fromFields, h]
    cases fields field.key with
    | none => exact ih config
    | some setting =>
      simp only
      cases field.apply ("logging." ++ field.key) setting config with
      | ok config => exact ih config
      | error reason => rfl

theorem fromFields_none (more : List Field) (config : LoggingConfig) :
    fromFields (fun _ ↦ none) more config = .ok config := by
  induction more with
  | nil => rfl
  | cons field more ih => exact ih

/-- **The section of logging** tells the configuration. -/
theorem Section.toConfig_eq (h : Section "logging" fields root) (order : Shuffle Field) :
    root.toConfig order =
      (fromFields fields (order.apply Setting.fields) .default).map CoreConfig.mk := by
  rw [toConfig]
  cases hmember : member? "logging" root with
  | none =>
    -- without a section no field has a setting, and the configuration stays the default
    obtain rfl : fields = fun _ ↦ none := by
      funext field
      rw [← h.member, hmember]
      rfl
    rw [fromFields_none]
    rfl
  | some table =>
    obtain ⟨origin, members, rfl⟩ := h.isTable table hmember
    have htable : ∀ key, member? key (.table origin members) = fields key := fun key ↦ by
      rw [← h.member, hmember, Option.bind_some]
    simp only [toLoggingConfig, fromTable_eq_fromFields htable]

theorem fromFields_cons_eq_ok_iff {key wanted : String} {convert : Conversion α}
    {set : α → LoggingConfig → LoggingConfig} {config result : LoggingConfig} (default : α)
    (hdefault : set default config = config) (more : List Field) :
    fromFields fields (.of key wanted convert set :: more) config = .ok result ↔
      ∃ x, valueOf convert default (fields key) = .ok x ∧
        fromFields fields more (set x config) = .ok result := by
  have hkey : (Field.of key wanted convert set).key = key := rfl
  rw [fromFields, hkey]
  cases fields key with
  | none =>
    constructor
    · exact fun h ↦ ⟨default, rfl, hdefault.symm ▸ h⟩
    · rintro ⟨x, ⟨⟩, h⟩
      rwa [hdefault] at h
  | some setting =>
    cases hconvert : convert setting with
    | ok x => simp [Field.apply, Field.of, valueOf, hconvert, Except.map]
    | error found => simp [Field.apply, Field.of, valueOf, hconvert, Except.map]

/-- **The configuration from its fields.** It has the values of its fields, if each has one. -/
theorem fromFields_eq_ok_iff (config : LoggingConfig) :
    fromFields fields Setting.fields .default = .ok config ↔
      valueOf toText LoggingConfig.default.level (fields "level") = .ok config.level ∧
      valueOf toText LoggingConfig.default.serviceName (fields "service_name") =
        .ok config.serviceName ∧
      valueOf toFlag LoggingConfig.default.fileOutput (fields "file_output") =
        .ok config.fileOutput ∧
      valueOf toOptionalText LoggingConfig.default.logDir (fields "log_dir") = .ok config.logDir ∧
      valueOf toFlag LoggingConfig.default.jsonFormat (fields "json_format") =
        .ok config.jsonFormat := by
  rw [Setting.fields, fromFields_cons_eq_ok_iff LoggingConfig.default.level rfl]
  constructor
  · rintro ⟨level, hlevel, h⟩
    obtain ⟨name, hname, h⟩ :=
      (fromFields_cons_eq_ok_iff LoggingConfig.default.serviceName rfl _).1 h
    obtain ⟨output, houtput, h⟩ :=
      (fromFields_cons_eq_ok_iff LoggingConfig.default.fileOutput rfl _).1 h
    obtain ⟨dir, hdir, h⟩ := (fromFields_cons_eq_ok_iff LoggingConfig.default.logDir rfl _).1 h
    obtain ⟨json, hjson, h⟩ :=
      (fromFields_cons_eq_ok_iff LoggingConfig.default.jsonFormat rfl _).1 h
    cases h
    exact ⟨hlevel, hname, houtput, hdir, hjson⟩
  · rintro ⟨hlevel, hname, houtput, hdir, hjson⟩
    refine ⟨_, hlevel, ?_⟩
    refine (fromFields_cons_eq_ok_iff LoggingConfig.default.serviceName rfl _).2 ⟨_, hname, ?_⟩
    refine (fromFields_cons_eq_ok_iff LoggingConfig.default.fileOutput rfl _).2 ⟨_, houtput, ?_⟩
    refine (fromFields_cons_eq_ok_iff LoggingConfig.default.logDir rfl _).2 ⟨_, hdir, ?_⟩
    exact (fromFields_cons_eq_ok_iff LoggingConfig.default.jsonFormat rfl _).2 ⟨_, hjson, rfl⟩

/-! ## Settings that do not convert -/

/-- What does not convert is reported with the field that it is for. -/
theorem fromFields_error {more : List Field} {config : LoggingConfig} {reason : ConversionError}
    (h : fromFields fields more config = .error reason) :
    ∃ field ∈ more, ∃ setting found, fields field.key = some setting ∧
      field.convert setting = .error found ∧
      reason = .field found field.wanted ("logging." ++ field.key) setting.origin := by
  induction more generalizing config with
  | nil => exact nomatch h
  | cons field more ih =>
    have hlater : ∀ config, fromFields fields more config = .error reason → _ := fun _ hmore ↦
      (ih hmore).imp fun _ hfield ↦ hfield.imp_left (List.mem_cons_of_mem field)
    rw [fromFields] at h
    split at h
    · exact hlater _ h
    · next setting hsetting =>
      rw [Field.apply] at h
      cases hconvert : field.convert setting with
      | ok update =>
        rw [hconvert] at h
        exact hlater _ h
      | error found =>
        rw [hconvert] at h
        exact ⟨field, .head _, setting, found, hsetting, hconvert, (Except.error.inj h).symm⟩

/-! ## The order of the fields -/

/-- Sets one field, if nothing has failed before. -/
def setField (fields : String → Option Setting) (config : Option LoggingConfig) (field : Field) :
    Option LoggingConfig :=
  config.bind fun config ↦
    match fields field.key with
    | none => some config
    | some setting => (field.convert setting).toOption.map (· config)

theorem toOption_fromFields (more : List Field) (config : LoggingConfig) :
    (fromFields fields more config).toOption = more.foldl (setField fields) (some config) := by
  have hfailed : ∀ more : List Field, more.foldl (setField fields) none = none := by
    intro more
    induction more with
    | nil => rfl
    | cons field more ih => exact ih
  induction more generalizing config with
  | nil => rfl
  | cons field more ih =>
    rw [fromFields, List.foldl_cons, setField, Option.bind_some]
    cases fields field.key with
    | none => exact ih config
    | some setting =>
      simp only [Field.apply]
      cases field.convert setting with
      | ok update => exact ih (update config)
      | error found => exact (hfailed more).symm

/-- A field keeps its value, or fails, or gets a new value, whatever the other values are. -/
theorem setField_of (fields : String → Option Setting) (key wanted : String)
    (convert : Conversion α) (set : α → LoggingConfig → LoggingConfig) :
    (∀ config, setField fields config (.of key wanted convert set) = config) ∨
    (∀ config, setField fields config (.of key wanted convert set) = none) ∨
    ∃ x, ∀ config, setField fields config (.of key wanted convert set) = config.map (set x) := by
  have hkey : (Field.of key wanted convert set).key = key := rfl
  simp only [setField, hkey]
  cases fields key with
  | none => exact .inl fun config ↦ Option.bind_fun_some config
  | some setting =>
    cases hconvert : convert setting with
    | error found =>
      refine .inr (.inl fun config ↦ ?_)
      simp [Field.of, hconvert, Except.map, Except.toOption]
    | ok x =>
      refine .inr (.inr ⟨x, fun config ↦ ?_⟩)
      cases config with
      | none => rfl
      | some config => simp [Field.of, hconvert, Except.map, Except.toOption]

/-- Fields may be set in either order if new values for them do not touch each other. -/
theorem setField_comm {β : Type} {key key' wanted wanted' : String} {convert : Conversion α}
    {convert' : Conversion β} {set : α → LoggingConfig → LoggingConfig}
    {set' : β → LoggingConfig → LoggingConfig}
    (hset : ∀ x y config, set x (set' y config) = set' y (set x config))
    (config : Option LoggingConfig) :
    setField fields (setField fields config (.of key wanted convert set))
        (.of key' wanted' convert' set') =
      setField fields (setField fields config (.of key' wanted' convert' set'))
        (.of key wanted convert set) := by
  rcases setField_of fields key wanted convert set with hkeeps | hfails | ⟨x, hsets⟩
  · rw [hkeeps, hkeeps]
  · rcases setField_of fields key' wanted' convert' set' with hkeeps | hfails' | ⟨y, hsets'⟩
    · rw [hkeeps, hkeeps]
    · rw [hfails, hfails, hfails']
    · rw [hfails, hfails, hsets', Option.map_none]
  · rcases setField_of fields key' wanted' convert' set' with hkeeps | hfails' | ⟨y, hsets'⟩
    · rw [hkeeps, hkeeps]
    · rw [hsets, hsets, hfails', hfails', Option.map_none]
    · simp only [hsets, hsets', Option.map_map]
      congr 1
      exact (funext (hset x y)).symm

theorem pairwise_setField_comm (fields : String → Option Setting) :
    Setting.fields.Pairwise fun field other ↦ ∀ config,
      setField fields (setField fields config field) other =
        setField fields (setField fields config other) field := by
  simp only [Setting.fields, List.pairwise_cons, List.forall_mem_cons, List.not_mem_nil,
    IsEmpty.forall_iff, implies_true, and_true, List.Pairwise.nil]
  refine ⟨⟨?_, ?_, ?_, ?_⟩, ⟨?_, ?_, ?_⟩, ⟨?_, ?_⟩, ?_⟩
  all_goals exact setField_comm fun _ _ _ ↦ rfl

/-- **Order does not matter** for a configuration: it is the same in every order of the fields. -/
theorem fromFields_perm {more : List Field} (hperm : more.Perm Setting.fields)
    (config result : LoggingConfig) :
    fromFields fields more config = .ok result ↔
      fromFields fields Setting.fields config = .ok result := by
  have hok : ∀ x : Except ConversionError LoggingConfig, x = .ok result ↔
      x.toOption = some result := by
    intro x
    cases x <;> simp [Except.toOption]
  have hpairs := pairwise_setField_comm fields
  have hcomm := hpairs.forall_of_forall_of_flip (fun _ _ _ ↦ rfl)
    (hpairs.imp fun h config ↦ (h config).symm)
  have hfold : more.foldl (setField fields) (some config) =
      Setting.fields.foldl (setField fields) (some config) :=
    (hperm.symm.foldl_eq' (fun _ hfield _ hother ↦ hcomm hfield hother) _).symm
  rw [hok, hok, toOption_fromFields, toOption_fromFields, hfold]

/-! ## Settings that convert alike -/

/-- No field can tell the settings from each other. -/
structure Alike (setting other : Setting) : Prop where
  origin_eq : setting.origin = other.origin
  convert_eq : ∀ field ∈ Setting.fields, field.convert setting = field.convert other

theorem Alike.refl (setting : Setting) : Alike setting setting := ⟨rfl, fun _ _ ↦ rfl⟩

/-- A table converts to nothing, whatever is in it. -/
theorem alike_table (origin : Option String) (members members' : List (String × Setting)) :
    Alike (.table origin members) (.table origin members') where
  origin_eq := rfl
  convert_eq := by
    simp only [Setting.fields, List.forall_mem_cons, List.not_mem_nil, IsEmpty.forall_iff,
      implies_true, and_true]
    exact ⟨rfl, rfl, rfl, rfl, rfl⟩

theorem fromFields_congr {fields' : String → Option Setting}
    (h : ∀ key, Option.Rel Alike (fields key) (fields' key)) {more : List Field}
    (hmore : ∀ field ∈ more, field ∈ Setting.fields) (config : LoggingConfig) :
    fromFields fields more config = fromFields fields' more config := by
  induction more generalizing config with
  | nil => rfl
  | cons field more ih =>
    rw [List.forall_mem_cons] at hmore
    have hfield := h field.key
    rw [fromFields, fromFields]
    generalize fields field.key = setting, fields' field.key = setting' at hfield
    cases hfield with
    | none => exact ih hmore.2 config
    | @some setting setting' halike =>
      simp only [Field.apply, halike.convert_eq field hmore.1, halike.origin_eq]
      cases field.convert setting' with
      | ok update => exact ih hmore.2 (update config)
      | error found => rfl

end Setting

end MonitorCore

import Mathlib.Data.List.Nodup
import MonitorCore.Proofs.Settings.Shuffled
import MonitorCore.Proofs.Settings.TomlKeys
import MonitorCore.Proofs.Settings.Variables
import MonitorCore.Proofs.Settings.YamlKeys

/-!
# Effective settings

Each field of logging has one effective setting: that of the variable that leads to it or else what
the file has under its name. The configuration is made of these settings and of nothing else,
whatever the format of the file, the order of the variables, and the order in which a loading goes
through tables. Only if several of these settings do not convert, it is up to the order which of
them is reported.

Loading breaks off only where a variable asks for an item of a list. The variable need not have to
do with logging, and then loading ends neither with a configuration nor with a failure.
-/

namespace MonitorCore

def effective (env : Environment) (origin : String) (members : List (String × Document))
    (field : String) : Option Setting :=
  ((variableFor? env field).map variableSetting).or
    (((Setting.sectionOf "logging" members).lookup field).map (Setting.placed origin))

/-- The configuration whose fields have the given settings, set in this order. -/
def configOfFields (order : Shuffle Setting.Field) (fields : String → Option Setting) :
    Except Failure CoreConfig :=
  match Setting.fromFields fields (order.apply Setting.fields) .default with
  | .ok config => .ok ⟨config⟩
  | .error reason => .error (.base ("parsing configuration: " ++ reason.message))

/-- The setting of the field does not convert, and so the failure says. -/
def Setting.Field.Fails (fields : String → Option Setting) (field : Setting.Field)
    (failure : Failure) : Prop :=
  ∃ setting found, fields field.key = some setting ∧ field.convert setting = .error found ∧
    failure = .base ("parsing configuration: " ++ (ConversionError.field found field.wanted
      ("logging." ++ field.key) setting.origin).message)

variable {files : FileTree} {env : Environment} {path : Option String} {origin : String}
  {members : List (String × Document)} {fields : String → Option Setting}

/-! ## Configurations from fields -/

theorem configOfFields_eq_ok_iff (order : Shuffle Setting.Field) (config : LoggingConfig) :
    configOfFields order fields = .ok ⟨config⟩ ↔
      Setting.fromFields fields Setting.fields .default = .ok config := by
  rw [configOfFields, ← Setting.fromFields_perm (order.perm Setting.fields)]
  split
  · next heq => simp [heq]
  · next heq => simp [heq]

theorem configOfFields_error {order : Shuffle Setting.Field} {failure : Failure}
    (h : configOfFields order fields = .error failure) :
    ∃ field ∈ Setting.fields, field.Fails fields failure := by
  rw [configOfFields] at h
  split at h
  · exact nomatch h
  · next reason hreason =>
    obtain ⟨field, hfield, setting, found, hsetting, hconvert, rfl⟩ :=
      Setting.fromFields_error hreason
    exact ⟨field, (order.perm _).mem_iff.1 hfield, setting, found, hsetting, hconvert,
      (Except.error.inj h).symm⟩

theorem configOf_section {root : Setting} (h : Setting.Section "logging" fields root)
    (order : Order) : configOf order root = configOfFields order.fields fields := by
  rw [configOf, h.toConfig_eq, configOfFields]
  cases Setting.fromFields fields (order.fields.apply Setting.fields) .default <;> rfl

theorem configOfFields_congr {fields' : String → Option Setting}
    (h : ∀ key, Option.Rel Setting.Alike (fields key) (fields' key))
    (order : Shuffle Setting.Field) :
    configOfFields order fields = configOfFields order fields' := by
  rw [configOfFields, configOfFields,
    Setting.fromFields_congr h fun _ hfield ↦ (order.perm _).mem_iff.1 hfield]

/-! ## The file -/

/-- The members of the root in the order in which a loading goes through them. -/
def Order.root (order : Order) (members : List (String × Document)) : List (String × Document) :=
  ((Document.table members).shuffled order.members []).root

/-- The section of logging in the file, if the file has one. -/
def HasTable (members : List (String × Document)) : Prop :=
  ∀ document, members.lookup "logging" = some document → ∃ inner, document = .table inner

theorem HasTable.lookup_root (h : HasTable members) (hkeyed : Keyed Document.Distinct members)
    (order : Order) (key : String) :
    (Setting.sectionOf "logging" (order.root members)).lookup key =
      ((Setting.sectionOf "logging" members).lookup key).map
        (Document.shuffled order.members ["logging", key]) := by
  have hroot := Document.lookup_shuffled hkeyed.nodup order.members [] "logging"
  rw [Setting.sectionOf, Setting.sectionOf, Order.root, hroot]
  cases hlookup : members.lookup "logging" with
  | none => rfl
  | some document =>
    obtain ⟨inner, rfl⟩ := h document hlookup
    have hinner := hkeyed.values _ ((Document.lookup_eq_some_iff hkeyed.nodup).1 hlookup)
    exact Document.lookup_shuffled (Document.distinct_table.1 hinner).nodup _ _ key

theorem HasTable.root (h : HasTable members) (hkeyed : Keyed Document.Distinct members)
    (order : Order) (document : Document)
    (hlookup : (order.root members).lookup "logging" = some document) :
    ∃ inner, document = .table inner ∧ (inner.map Prod.fst).Nodup := by
  rw [Order.root, Document.lookup_shuffled hkeyed.nodup, Option.map_eq_some_iff] at hlookup
  obtain ⟨document, hlookup, rfl⟩ := hlookup
  obtain ⟨inner, rfl⟩ := h document hlookup
  have hinner := hkeyed.values _ ((Document.lookup_eq_some_iff hkeyed.nodup).1 hlookup)
  refine ⟨_, Document.shuffled.eq_1 .., ?_⟩
  exact (Document.keys_shuffled order.members _ inner).nodup_iff.2
    (Document.distinct_table.1 hinner).nodup

theorem effective_perm {env' : Environment} (h : LeadsToFields env) (hperm : env.Perm env')
    (origin : String) (members : List (String × Document)) :
    effective env' origin members = effective env origin members := by
  funext field
  rw [effective, effective, variableFor?_perm h hperm]

section

variable [Platform]

/-! ## What the layers say -/

/-- **No key twice**, whatever the format. -/
theorem FileFormat.read_distinct {format : FileFormat} {s : String} {document : Document}
    (h : format.read s = some document) : document.Distinct := by
  cases format with
  | toml => exact Toml.read_distinct h
  | json => exact Document.readJson_distinct h
  | yaml => exact Yaml.read_distinct h
  | ini => exact Ini.read_distinct h
  | ron | json5 =>
    obtain ⟨⟨_, hdistinct⟩, -, rfl⟩ := Option.map_eq_some_iff.1 h
    exact hdistinct

/-- What the configuration file is called and the members of its root, which is a table. Without a
file there are no members. -/
inductive FileHolds (files : FileTree) : Option String → String → List (String × Document) → Prop
  | absent (origin : String) : FileHolds files none origin []
  | present {path text : String} {file : FoundFile} {members : List (String × Document)}
      (hfile : findFile files path = .ok file) (htext : file.content.text? = some text)
      (hread : file.format.read text = some (.table members)) :
      FileHolds files (some path) file.origin members

theorem FileHolds.nodup (h : FileHolds files path origin members) :
    Keyed Document.Distinct members := by
  cases h with
  | absent => exact .nil
  | present _ _ hread => exact Document.distinct_table.1 (FileFormat.read_distinct hread)

theorem FileHolds.configFrom_eq (h : FileHolds files path origin members) (order : Order)
    (env : Environment) :
    configFrom order files env path =
      (mergeLayers (Setting.ofMembers origin (order.root members))
        (order.environment.apply (environmentLayer env))).map (configOf order) := by
  cases h with
  | absent =>
    have hempty : order.root [] = [] := List.perm_nil.1 ((order.members []).perm [])
    rw [hempty]
    rfl
  | present hfile htext hread =>
    simp only [configFrom, fileLayer, hfile, htext, hread]
    rfl

/-- The variables over a section, in any order: each field has the setting of its variable, if there
is one. -/
theorem LeadsToFields.putAll {root : Setting} {layer : List (String × Setting)}
    (h : LeadsToFields env) (hlayer : layer.Perm (environmentLayer env))
    (hroot : Setting.Section "logging" fields root) :
    (Setting.putAll layer root = .broken ∧
      ∃ entry ∈ env, ∃ keyPath, variablePath? entry.1 = some keyPath ∧ keyPath.Indexed) ∨
    ∃ root', Setting.putAll layer root = .ended root' ∧
      Setting.Section "logging"
        (fun field ↦ ((variableFor? env field).map variableSetting).or (fields field)) root' := by
  rcases hroot.putAll fun setting hsetting ↦ h.layer (hlayer.mem_iff.1 hsetting) with
    ⟨hbroken, setting, hsetting, hindexed⟩ | ⟨root', fields', hended, hsection, hfields⟩
  · obtain ⟨entry, hentry, hkey, -⟩ := mem_environmentLayer (hlayer.mem_iff.1 hsetting)
    exact .inl ⟨hbroken, entry, hentry, _, variablePath?_eq_some hkey, hindexed⟩
  · obtain rfl : fields' = fun field ↦
        ((variableFor? env field).map variableSetting).or (fields field) := by
      funext field
      rcases hfields field with ⟨setting, hsetting, hleads, heq⟩ | ⟨hnone, heq⟩
      · rw [heq, h.field_of_layer (hlayer.mem_iff.1 hsetting) hleads, Option.some_or]
      · have hnone' := variableFor?_eq_none_of_layer fun setting hsetting ↦
          hnone setting (hlayer.mem_iff.2 hsetting)
        rw [heq, hnone', Option.map_none, Option.none_or]
    exact .inr ⟨root', hended, hsection⟩

/-! ## Loading -/

/-- **Loading, layer by layer.** Loading breaks off at a variable with an index, or it ends with the
configuration of the effective settings. -/
theorem configFrom_effective (hfile : FileHolds files path origin members)
    (hnames : ∀ member ∈ members, KeyPath.IsName member.1) (htable : HasTable members)
    (h : LeadsToFields env) (order : Order) :
    (configFrom order files env path = .broken ∧
      ∃ entry ∈ env, ∃ keyPath, variablePath? entry.1 = some keyPath ∧ keyPath.Indexed) ∨
    configFrom order files env path =
      .ended (configOfFields order.fields (effective env origin members)) := by
  have hkeyed := hfile.nodup
  have hkeys := Document.keys_shuffled order.members [] members
  have hnames' : ∀ member ∈ order.root members, KeyPath.IsName member.1 := by
    intro member hmember
    obtain ⟨source, hsource, hkey⟩ :=
      List.mem_map.1 (hkeys.mem_iff.1 (List.mem_map_of_mem hmember))
    exact hkey ▸ hnames source hsource
  obtain ⟨root, hroot, hsection⟩ := Setting.section_putAll_ofMembers origin hnames'
    (hkeys.nodup_iff.2 hkeyed.nodup) (htable.root hkeyed order)
  -- the file puts the section, and the variables go over it
  rw [hfile.configFrom_eq, mergeLayers, hroot, Attempt.bind_ended]
  rcases h.putAll (order.environment.perm _) hsection with
    ⟨hbroken, hindexed⟩ | ⟨root', hended, hsection'⟩
  · exact .inl ⟨by rw [hbroken, Attempt.map_broken], hindexed⟩
  · refine .inr ?_
    rw [hended, Attempt.map_ended, configOf_section hsection']
    congr 1
    refine configOfFields_congr (fun key ↦ ?_) order.fields
    rw [effective, htable.lookup_root hkeyed]
    cases (variableFor? env key).map variableSetting with
    | some setting => exact .some (.refl setting)
    | none =>
      cases (Setting.sectionOf "logging" members).lookup key with
      | none => exact .none
      | some document => exact .some (Setting.alike_placed_shuffled ..)

/-- **The effective settings decide.** Let every variable of the platform lead to a field of
logging, no two to the same one, or away from logging, once the `.env` file has been read. The
variables that were set before stay, so they win over that file. Then, in whatever order the
variables are enumerated and tables are gone through, loading ends with a configuration exactly if
the effective setting of each field converts, and it has the values of these settings, or defaults
where there are none; otherwise it ends with the failure to convert one of them. It breaks off only
if there is a variable with an index in its path. -/
theorem loads_effective_settings (hfile : FileHolds files path origin members)
    (hnames : ∀ member ∈ members, KeyPath.IsName member.1) (htable : HasTable members)
    (hdotenv : (Dotenv.apply files env).2 = .ended ())
    (hleads : LeadsToFields (Dotenv.apply files env).1) :
    let env' := (Dotenv.apply files env).1
    let fields := effective env' origin members
    (∀ order, loadConfig order files env path = (env', configFrom order files env' path)) ∧
    Extends env env' ∧
    ∀ order vars, env'.Perm vars →
      (configFrom order files vars path = .broken ∧
        ∃ entry ∈ env', ∃ keyPath, variablePath? entry.1 = some keyPath ∧ keyPath.Indexed) ∨
      ∃ result, configFrom order files vars path = .ended result ∧
        (∀ config : LoggingConfig, result = .ok ⟨config⟩ ↔
          Setting.valueOf Setting.toText LoggingConfig.default.level (fields "level") =
            .ok config.level ∧
          Setting.valueOf Setting.toText LoggingConfig.default.serviceName (fields "service_name") =
            .ok config.serviceName ∧
          Setting.valueOf Setting.toFlag LoggingConfig.default.fileOutput (fields "file_output") =
            .ok config.fileOutput ∧
          Setting.valueOf Setting.toOptionalText LoggingConfig.default.logDir (fields "log_dir") =
            .ok config.logDir ∧
          Setting.valueOf Setting.toFlag LoggingConfig.default.jsonFormat (fields "json_format") =
            .ok config.jsonFormat) ∧
        ∀ failure, result = .error failure →
          ∃ field ∈ Setting.fields, field.Fails fields failure := by
  intro env' fields
  refine ⟨fun order ↦ ?_, Dotenv.apply_extends files env, fun order vars hperm ↦ ?_⟩
  · rw [loadConfig]
    split
    · next heq => rw [heq] at hdotenv; exact nomatch hdotenv
    · next env'' heq =>
      obtain rfl : env'' = env' := by rw [show env' = (Dotenv.apply files env).1 from rfl, heq]
      rfl
  · rcases configFrom_effective hfile hnames htable (hleads.perm hperm) order with
      ⟨hbroken, entry, hentry, hindexed⟩ | hended
    · exact .inl ⟨hbroken, entry, hperm.mem_iff.2 hentry, hindexed⟩
    · rw [effective_perm hleads hperm] at hended
      refine .inr ⟨_, hended, fun config ↦ ?_, fun failure ↦ configOfFields_error⟩
      rw [configOfFields_eq_ok_iff, Setting.fromFields_eq_ok_iff]

end

section

attribute [local instance] Platform.plain

/-- The conditions hold of variables, a `.env` file and a file that each set some of the fields. The
level is that of the variable, though all three have one. -/
theorem loads_effective_settings_of_three_layers :
    let env : Environment := [("GEOMON_LOGGING__LEVEL", "off"), ("GEOMON_OTHER", "1")]
    let files : FileTree := { entries :=
      [([".env"], .file (.text "GEOMON_LOGGING__LEVEL=warn\nGEOMON_LOGGING__FILE_OUTPUT=yes\n")),
        (["core.ini"], .file (.text "[logging]\nlevel = debug\nlog_dir = logs\n"))] }
    let members : List (String × Document) :=
      [("logging", .table [("level", .text "debug"), ("log_dir", .text "logs")])]
    let env' : Environment := env ++ [("GEOMON_LOGGING__FILE_OUTPUT", "yes")]
    FileHolds files (some "core.ini") "core.ini" members ∧
      Dotenv.apply files env = (env', .ended ()) ∧ LeadsToFields env' ∧
      ∀ order vars, env'.Perm vars → configFrom order files vars (some "core.ini") =
        .ended (.ok ⟨{ level := "off", fileOutput := true, logDir := some "logs" }⟩) := by
  intro env files members env'
  have hread : FileFormat.ini.read "[logging]\nlevel = debug\nlog_dir = logs\n" =
      some (.table members) := rfl
  have hfile : FileHolds files (some "core.ini") "core.ini" members :=
    @FileHolds.present _ files "core.ini" _ ⟨"core.ini", .ini, _⟩ members rfl rfl hread
  have hdotenv : Dotenv.apply files env = (env', .ended ()) := by decide +kernel
  have hpaths : env'.map (fun entry ↦ variablePath? entry.1) =
      [some (loggingPath "level"), some (.top "other"), some (loggingPath "file_output")] := by
    decide +kernel
  have hpath : ∀ entry ∈ env', ∀ path, variablePath? entry.1 = some path →
      path ∈ [loggingPath "level", .top "other", loggingPath "file_output"] := by
    intro entry hentry path hpath
    have hmem : variablePath? entry.1 ∈ env'.map fun entry ↦ variablePath? entry.1 :=
      List.mem_map_of_mem hentry
    simpa [hpaths, hpath] using hmem
  have hleads : LeadsToFields env' := by
    refine ⟨fun entry hentry path h ↦ ?_, fun field _ entry hentry other hother h h' ↦ ?_⟩
    · obtain rfl | rfl | rfl : path = _ ∨ path = _ ∨ path = _ := by
        simpa using hpath entry hentry path h
      · exact .inr ⟨_, .head _, rfl⟩
      · exact .inl (by decide)
      · exact .inr ⟨_, .tail _ (.tail _ (.head _)), rfl⟩
    · have hnodup : (env'.map fun entry ↦ variablePath? entry.1).Nodup := by rw [hpaths]; decide
      have hsame : variablePath? entry.1 = variablePath? other.1 := h.trans h'.symm
      exact List.inj_on_of_nodup_map hnodup hentry hother hsame
  have hname : "logging".toList.all KeyPath.inName = true := rfl
  have hnames : ∀ member ∈ members, KeyPath.IsName member.1 :=
    List.forall_mem_singleton.2 ⟨by decide, List.all_eq_true.1 hname⟩
  have htable : HasTable members := fun _ h ↦ ⟨_, (Option.some.inj h).symm⟩
  refine ⟨hfile, hdotenv, hleads, fun order vars hperm ↦ ?_⟩
  have hended : (Dotenv.apply files env).2 = .ended () := by rw [hdotenv]
  have hleads' : LeadsToFields (Dotenv.apply files env).1 := by rwa [hdotenv]
  obtain ⟨-, -, hloads⟩ := loads_effective_settings hfile hnames htable hended hleads'
  rw [hdotenv] at hloads
  -- none of the three paths has an index, so loading does not break off
  rcases hloads order vars hperm with ⟨-, entry, hentry, path, hleads, hindexed⟩ |
    ⟨result, hended, hiff, -⟩
  · obtain rfl | rfl | rfl : path = _ ∨ path = _ ∨ path = _ := by
      simpa using hpath entry hentry path hleads
    all_goals exact hindexed.elim
  · rw [hended, (hiff { level := "off", fileOutput := true, logDir := some "logs" }).2
      ⟨rfl, rfl, rfl, rfl, rfl⟩]

/-- **Loading can break off**, with no file at all and one variable that has nothing to do with
logging: it asks for an item in front of an empty list. -/
theorem loading_breaks_off :
    let env : Environment := [("GEOMON_X[-1]", "1")]
    Dotenv.apply {} env = (env, .ended ()) ∧
      variablePath? "GEOMON_X[-1]" = some (.item (.top "x") (-1)) ∧ LeadsToFields env ∧
      ∀ order result, (loadConfig order {} env none).2 ≠ .ended result := by
  intro env
  have hpath : variablePath? "GEOMON_X[-1]" = some (.item (.top "x") (-1)) := by decide +kernel
  have hbroken : ∀ order, (loadConfig order {} env none).2 = .broken := by
    intro order
    have hlayer : environmentLayer env = [("x[-1]", variableSetting "1")] := rfl
    have hsame := List.perm_singleton.1 (hlayer ▸ order.environment.perm (environmentLayer env))
    change (mergeLayers [] (order.environment.apply (environmentLayer env))).map _ = .broken
    rw [hlayer, hsame]
    rfl
  refine ⟨rfl, hpath, ⟨List.forall_mem_singleton.2 fun path h ↦ .inl ?_, ?_⟩, ?_⟩
  · obtain rfl := Option.some.inj (hpath.symm.trans h)
    decide
  · intro _ _ entry hentry other hother _ _
    rw [List.mem_singleton.1 hentry, List.mem_singleton.1 hother]
  · intro order
    rw [hbroken order]
    exact nofun

end

end MonitorCore

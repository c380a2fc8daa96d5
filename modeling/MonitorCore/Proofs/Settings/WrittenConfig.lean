import Mathlib.Data.List.Infix
import MonitorCore.Proofs.Json.RoundTrip
import MonitorCore.Proofs.Settings.Effective
import MonitorCore.Session.Step

/-!
# Configurations written to files

A configuration that is written to a JSON file loads as the configuration that it was. It does not
come back the way it went: it is parsed into a document, the document is turned into settings, which
would convert to other types as well, and only these become a configuration again. A text stays a
text on this way, whatever it looks like, and the null of an absent directory is told from a text.
-/

namespace MonitorCore

open Json (Value)

/-! ## Objects as tables -/

theorem Document.lookup_root_canonical {members : List (String × Value)} {key : String} {v : Value}
    (hnodup : (members.map Prod.fst).Nodup) (h : (key, v) ∈ members) :
    (ofJson (Value.object members).canonical).root.lookup key = some (ofJson v.canonical) := by
  rw [lookup_eq_some_iff (distinct_canonical (.object members)).root.nodup, Value.canonical, ofJson,
    root, ofJsonMembers_eq_map]
  refine List.mem_map.2 ⟨(key, v.canonical), ?_, rfl⟩
  rw [(Value.ofList_canonicalMembers_perm hnodup).mem_iff, Value.canonicalMembers_eq_map]
  exact List.mem_map.2 ⟨(key, v), h, rfl⟩

namespace LoggingConfig

variable (config : LoggingConfig)

/-- The members of the table that the written configuration is read as. -/
def writtenMembers : List (String × Document) :=
  (Document.ofJson (format.toJson config).canonical).root

theorem lookup_writtenMembers {key : String} {v : Value}
    (h : (key, v) ∈ recordFormat.members config) :
    config.writtenMembers.lookup key = some (Document.ofJson v.canonical) :=
  Document.lookup_root_canonical (independent.nodup_keys config) h

end LoggingConfig

theorem CoreConfig.readJson_print (config : CoreConfig) :
    Document.readJson (CoreConfig.format.print config) =
      some (.table [("logging", .table config.logging.writtenMembers)]) := by
  have hfits : (CoreConfig.format.toJson config).Fits Json.depthLimit :=
    (CoreConfig.restoresAt_format _).fits config
  have hobject : CoreConfig.format.toJson config =
      .object [("logging", LoggingConfig.format.toJson config.logging)] := rfl
  rw [Document.readJson, Json.Format.print, Json.parse_compact hfits, Option.map_some, hobject,
    Value.canonical_object_single]
  rfl

/-! ## Fields -/

variable {files : FileTree} {env : Environment} {path : String} {content : Content}

/-- Each field of the written configuration has its own value as its setting, so the settings are
those of this configuration. -/
theorem LoggingConfig.configOfFields_written (config : LoggingConfig) (origin : String)
    (hvariable : ∀ field, variableFor? env field = none) (order : Shuffle Setting.Field) :
    configOfFields order (effective env origin [("logging", .table config.writtenMembers)]) =
      .ok ⟨config⟩ := by
  have hfield : ∀ key v, (key, v) ∈ recordFormat.members config →
      effective env origin [("logging", .table config.writtenMembers)] key =
        some (Setting.placed origin (Document.ofJson v.canonical)) := by
    intro key v hmem
    have hsection : Setting.sectionOf "logging" [("logging", .table config.writtenMembers)] =
        config.writtenMembers := rfl
    rw [effective, hvariable, hsection, config.lookup_writtenMembers hmem]
    rfl
  rw [configOfFields_eq_ok_iff, Setting.fromFields_eq_ok_iff]
  refine ⟨?_, ?_, ?_, ?_, ?_⟩
  · rw [hfield "level" (.text config.level) (.head _)]
    rfl
  · rw [hfield "service_name" (.text config.serviceName) (.tail _ (.head _))]
    rfl
  · rw [hfield "file_output" (.bool config.fileOutput) (.tail _ (.tail _ (.head _)))]
    rfl
  · have hmem : ("log_dir", (Json.Format.optional .text).toJson config.logDir) ∈
        recordFormat.members config := .tail _ (.tail _ (.tail _ (.head _)))
    rw [hfield _ _ hmem]
    -- no directory is written as null, and only null is read as none
    cases config.logDir with
    | none => rfl
    | some dir => rfl
  · rw [hfield "json_format" (.bool config.jsonFormat)
      (.tail _ (.tail _ (.tail _ (.tail _ (.head _)))))]
    rfl

/-! ## Without variables of the platform -/

theorem variablePath?_eq_none (h : ∀ entry ∈ env, variableKey? entry.1 = none) :
    ∀ entry ∈ env, variablePath? entry.1 = none := by
  intro entry hentry
  rw [variablePath?, h entry hentry, Option.map_none]

theorem leadsToFields_of_none (h : ∀ entry ∈ env, variablePath? entry.1 = none) :
    LeadsToFields env where
  leads entry hentry _ hpath := nomatch (h entry hentry).symm.trans hpath
  once _ _ entry hentry _ _ hpath := nomatch (h entry hentry).symm.trans hpath

/-! ## Loading -/

theorem KeyPath.isName_logging : IsName "logging" := by
  have hall : "logging".toList.all inName = true := rfl
  exact ⟨by decide, List.all_eq_true.1 hall⟩

/-- **A written configuration loads.** Let the file that the path leads to have the extension of
JSON and hold what a configuration is printed as; let there be no `.env` file and no variable of the
platform. Then loading ends with this configuration, and the variables stay as they are. -/
theorem loadConfig_written [Platform] {config : CoreConfig}
    (hfile : fileAt? files path = some content)
    (htext : content.text? = some (CoreConfig.format.print config))
    (hjson : extension? (lastName path) = some "json")
    (hdotenv : ∀ dir, dir <+: files.workDir → files.content? (dir ++ [".env"]) = none)
    (hvariables : ∀ entry ∈ env, variableKey? entry.1 = none) (order : Order) :
    loadConfig order files env (some path) = (env, .ended (.ok config)) := by
  have hfound : findFile files path = .ok ⟨shownPath files path, .json, content⟩ := by
    simp only [findFile, hfile, hjson]
    rfl
  have hholds : FileHolds files (some path) (shownPath files path)
      [("logging", .table config.logging.writtenMembers)] :=
    .present hfound htext config.readJson_print
  have htable : HasTable [("logging", .table config.logging.writtenMembers)] :=
    fun _ h ↦ ⟨_, (Option.some.inj h).symm⟩
  have hpaths := variablePath?_eq_none hvariables
  have hnone : ∀ field, variableFor? env field = none := by
    refine fun field ↦ variableFor?_eq_none fun entry hentry h ↦ ?_
    cases (hpaths entry hentry).symm.trans h
  rw [loadConfig, Dotenv.apply, Dotenv.fileFrom?_eq_none hdotenv]
  dsimp only
  rcases configFrom_effective hholds (List.forall_mem_singleton.2 KeyPath.isName_logging) htable
      (leadsToFields_of_none hpaths) order with ⟨-, entry, hentry, keyPath, h, -⟩ | hended
  · cases (hpaths entry hentry).symm.trans h
  · rw [hended, config.logging.configOfFields_written _ hnone]

section

attribute [local instance] Platform.plain

/-- The texts look like a truth value, like nothing at all and like the end of a text, and there are
a file and a variable that have nothing to do with the configuration. -/
theorem loadConfig_written_of_odd_texts :
    let config : CoreConfig :=
      ⟨{ level := "true", serviceName := "\"\\\n\u0001\u00e9\", \"a\": 1\x7d", logDir := some "" }⟩
    let files : FileTree := Session.writeFile "conf/core.json"
      (.text (CoreConfig.format.print config))
      { entries := [(["home", "notes"], .file (.text "A=1"))], workDir := ["home"] }
    let env : Environment := [("LEVEL", "debug")]
    files.content? ["home", "conf", "core.json"] =
        some (.text (CoreConfig.format.print config)) ∧
      ∀ order, loadConfig order files env (some "conf/core.json") =
        (env, .ended (.ok config)) := by
  intro config files env
  have hwritten : files.content? ["home", "conf", "core.json"] =
      some (.text (CoreConfig.format.print config)) := by decide +kernel
  have hfile : fileAt? files "conf/core.json" =
      some (.text (CoreConfig.format.print config)) := by decide +kernel
  have hvariables : ∀ entry ∈ env, variableKey? entry.1 = none :=
    List.forall_mem_singleton.2 (by decide +kernel)
  have hdotenv : ∀ dir ∈ [[], ["home"]], files.content? (dir ++ [".env"]) = none := by
    decide +kernel
  refine ⟨hwritten, loadConfig_written hfile rfl (by decide +kernel) (fun dir hdir ↦ ?_)
    hvariables⟩
  exact hdotenv dir ((List.mem_inits dir _).2 hdir)

end

end MonitorCore

import MonitorCore.Logging.Event
import MonitorCore.Settings.Conversion
import MonitorCore.Settings.Dotenv
import MonitorCore.Settings.Ini
import MonitorCore.Settings.Toml
import MonitorCore.Settings.Yaml

/-!
# Loading the configuration

The configuration comes from three layers: the defaults, a file if one is named, and the environment
variables of the platform, each winning over those before it. A `.env` file is read first; what it
sets are environment variables like any others, and they stay set.

The settings of the file and the environment are merged into one tree, which is then converted. They
are gone through in an order that nobody has chosen, another one for each loading (`Order`). This
makes a difference where two settings are put into each other's way, and where several fields do not
convert, of which only one is reported.

An error of a file keeps no more of its cause than the place, since what a reader of a format says
belongs to that reader. Loading breaks off, without a failure, where a variable or a key path asks
for what cannot be.
-/

namespace MonitorCore

/-- The orders in which one loading goes through what has no order of its own. -/
structure Order where
  /-- The members of a table of the file, by the keys that lead to it. -/
  members : List String → Shuffle (String × Document)
  /-- The settings from variables. -/
  environment : Shuffle (String × Setting)
  /-- The fields of logging that have a setting. -/
  fields : Shuffle Setting.Field

namespace Order

/-- Everything is gone through as it was written. -/
def asWritten : Order := ⟨fun _ ↦ .keep _, .keep _, .keep _⟩

def backwards : Order := ⟨fun _ ↦ .reverse _, .reverse _, .reverse _⟩

end Order

variable [Platform]

/-! ## The file -/

namespace FileFormat

/-- The format of files with an extension. -/
def ofExtension? (extension : String) : Option FileFormat :=
  all.find? (extension ∈ ·.extensions)

def read : FileFormat → String → Option Document
  | toml, s => Toml.read s
  | json, s => Document.readJson s
  | yaml, s => Yaml.read s
  | ini, s => Ini.read s
  | ron, s => (Platform.readRon s).map Subtype.val
  | json5, s => (Platform.readJson5 s).map Subtype.val

end FileFormat

/-- Why settings cannot be loaded. -/
inductive LoadError where
  /-- There is no such file, with or without an extension. -/
  | notFound (name : String)
  /-- The file has no extension that tells a format. -/
  | unknownFormat (name : String)
  /-- The file is no text. -/
  | notText
  /-- The text is not of the format. -/
  | malformed (origin : String)
  deriving DecidableEq, Repr

/-- The word that stands for the working directory in messages. -/
def workingDirectory : String := "<dir>"

/-- What stands for the cause that the reader of a format gives. -/
def parseError : String := "<parse error>"

def LoadError.message : LoadError → String
  | notFound name => "configuration file \"" ++ name ++ "\" not found"
  | unknownFormat name =>
    "configuration file \"" ++ (if isAbsolute name then name else workingDirectory ++ "/" ++ name)
      ++ "\" is not of a registered file format"
  | notText => parseError
  | malformed origin => parseError ++ " in " ++ origin

/-- A name and its extension: what stands behind the last point, unless that is the first
character. -/
def extension? (name : String) : Option String :=
  let rev := name.toList.reverse
  match rev.dropWhile (· != '.') with
  | _ :: _ :: _ => some (String.ofList (rev.takeWhile (· != '.')).reverse)
  | _ => none

def lastName (path : String) : String := (pathNames path).getLast?.getD ""

/-- The reverse of a path text without what leads nowhere at its end. -/
def dropNowhere : List Char → List Char
  | '/' :: rest => dropNowhere rest
  | '.' :: '/' :: rest => dropNowhere rest
  | rest => rest

/-- The path text without slashes and single points at its end. -/
def withoutSlash (path : String) : String :=
  String.ofList (dropNowhere path.toList.reverse).reverse

/-- The names that lead from a directory to where others lead from the root. -/
def namesFrom : Path → List String → List String
  | [], names => names
  | dir, [] => dir.map fun _ ↦ ".."
  | d :: dir, name :: names =>
    if d = name then namesFrom dir names else ".." :: (dir.map fun _ ↦ "..") ++ name :: names

/-- Where a path text leads, in the words of messages: the way from the working directory. -/
def shownPath (files : FileTree) (path : String) : String :=
  "/".intercalate (namesFrom files.workDir (files.start path ++ pathNames path))

/-- A configuration file that was found: what it is called in messages, its format and content. -/
structure FoundFile where
  origin : String
  format : FileFormat
  content : Content
  deriving DecidableEq, Repr

/-- The file that a path text leads to. A path to a directory, marked by a slash, leads to none. -/
def fileAt? (files : FileTree) (path : String) : Option Content :=
  if path.toList.getLast? = some '/' then none
  else (files.resolve? path).bind files.content?

/-- Looks for a configuration file: for the very path, whose extension then tells the format, or
else for the path with one of the extensions behind it. -/
def findFile (files : FileTree) (path : String) : Except LoadError FoundFile :=
  match fileAt? files path with
  | some content =>
    match (extension? (lastName path)).bind FileFormat.ofExtension? with
    | some format => .ok ⟨shownPath files path, format, content⟩
    | none => .error (.unknownFormat path)
  | none =>
    let base := withoutSlash path
    let found := Platform.formats.findSome? fun format ↦ format.extensions.findSome? fun name ↦
      let extended := base ++ "." ++ name
      if lastName base = "" ∨ lastName base = ".." then none
      else (fileAt? files extended).map fun content ↦ ⟨shownPath files extended, format, content⟩
    match found with
    | some file => .ok file
    | none => .error (.notFound path)

/-- The settings of a configuration file. -/
def fileLayer (order : Order) (files : FileTree) (path : String) :
    Except LoadError (List (String × Setting)) :=
  match findFile files path with
  | .error reason => .error reason
  | .ok file =>
    match file.content.text? with
    | none => .error .notText
    | some text =>
      match file.format.read text with
      | none => .error (.malformed file.origin)
      | some document =>
        .ok (Setting.ofMembers file.origin (document.shuffled order.members []).root)

/-! ## The environment -/

/-- The beginning of the names of the variables that are settings, in small letters. -/
def variablePrefix : String := "geomon_"

/-- The origin of settings from variables. -/
def environmentOrigin : String := "the environment"

/-- Two underscores become a point. -/
def pointed : List Char → List Char
  | '_' :: '_' :: rest => '.' :: pointed rest
  | c :: rest => c :: pointed rest
  | [] => []

/-- The key that a variable sets, if it is one of the platform. -/
def variableKey? (name : String) : Option String :=
  let lower := (Text.lowercase name).toList
  if variablePrefix.toList.isPrefixOf lower then
    some (String.ofList (pointed (lower.drop variablePrefix.length)))
  else none

/-- The settings of the environment. Of variables that set the same key the last one counts. -/
def environmentLayer (env : Environment) : List (String × Setting) :=
  env.foldl
    (fun layer (name, value) ↦
      match variableKey? name with
      | none => layer
      | some key => Document.enter key (.scalar (some environmentOrigin) (.text value)) layer)
    []

/-! ## Loading -/

/-- All settings: the layers put one over the other. -/
def mergeLayers (lower upper : List (String × Setting)) : Attempt Setting :=
  (Setting.putAll lower Setting.empty).bind (Setting.putAll upper)

/-- The configuration from merged settings. -/
def configOf (order : Order) (root : Setting) : Except Failure CoreConfig :=
  match root.toConfig order.fields with
  | .error reason => .error (.base ("parsing configuration: " ++ reason.message))
  | .ok config => .ok config

/-- The configuration from files and variables, once `.env` has been read. -/
def configFrom (order : Order) (files : FileTree) (env : Environment) (path : Option String) :
    Attempt (Except Failure CoreConfig) :=
  let file : Except LoadError (List (String × Setting)) :=
    match path with
    | none => .ok []
    | some path => fileLayer order files path
  match file with
  | .error reason => .ended (.error (.base ("loading configuration: " ++ reason.message)))
  | .ok layer =>
    (mergeLayers layer (order.environment.apply (environmentLayer env))).map (configOf order)

/-- Loads the configuration: the variables afterwards, and the configuration. -/
def loadConfig (order : Order) (files : FileTree) (env : Environment) (path : Option String) :
    Environment × Attempt (Except Failure CoreConfig) :=
  match Dotenv.apply files env with
  | (env, .broken) => (env, .broken)
  | (env, .ended ()) => (env, configFrom order files env path)

/-- The event of a configuration that was loaded. -/
def loadedEvent (config : CoreConfig) (fromFile : Bool) : Event where
  level := .debug
  target := "geomon_core::settings"
  message := "Configuration loaded"
  details := [("service", .shown config.logging.serviceName), ("from_file", .flag fromFile)]

end MonitorCore

import MonitorCore.Attempt
import MonitorCore.Session.Effect
import MonitorCore.Text.Quoted

/-!
# Installing the subscriber

An installation takes its directory and its filter from the configuration, opens the log file, and
then takes the place of the global subscriber, in this order. It fails without the directory or with
a filter that is none; it breaks off if a directive cannot be cut or the log file cannot be opened;
and it fails if the place is taken. A log file that was opened stays even if the installation fails
after that.

Only the first installation that comes to an end counts: its outcome is that of every later one. One
that breaks off leaves the next one to try anew.
-/

namespace MonitorCore

namespace Session

/-! ## The filter -/

/-- The variable that wins over the configured level. -/
def filterVariable : String := "RUST_LOG"

variable [Platform]

/-- The filter of a configured level. -/
def levelFilter (level : String) : Attempt (Except Failure Filter) :=
  match Filter.read level with
  | .ok filter => .ended (.ok filter)
  | .error .splitCharacter => .broken
  | .error (.refused reason) =>
    .ended (.error (.base ("parsing log level '" ++ level ++ "': " ++ reason.message)))

/-- The filter of an installation: that of the variable if it is set to one, else that of the
configured level. -/
def chooseFilter (env : Environment) (level : String) : Attempt (Except Failure Filter) :=
  match (env.get? filterVariable).map Filter.read with
  | some (.ok filter) => .ended (.ok filter)
  | some (.error .splitCharacter) => .broken
  | _ => levelFilter level

/-! ## The log file -/

/-- The word that stands for the day in the name of a log file. -/
def dateMark : String := "DATE"

/-- The path text of the log file of a service. -/
def logPath (dir service : String) : String :=
  let name := service ++ ".log." ++ dateMark
  if isAbsolute name ∨ dir = "" then name else dir ++ "/" ++ name

/-- How many bytes a day has beyond the word that stands for it. -/
def dateSurplus : Nat := 6

/-- Opens the file at a path, making it if it is not there. -/
def openAt (files : FileTree) (path : Path) : Option FileTree :=
  match files.at? path with
  | none => some (files.put path (.file (.log [])))
  | some (.file _) => some files
  | some .directory => none

/-- Opens a file whose directory exists; its last name is shown shorter than it is. -/
def openShown (files : FileTree) (path : String) : Option (FileTree × Path) :=
  if (pathNames path).getLast?.all (isFileName dateSurplus) then
    (files.resolve? path).bind fun path ↦ (openAt files path).map fun files ↦ (files, path)
  else none

/-- Opens a log file, making it and the directories on its way if they are not there. Directories
that were made stay, whether the file can be opened or not. A directory whose name has a zero
character is not looked for at all. -/
def openLog (files : FileTree) (path : String) : FileTree × Option Path :=
  let dirs := (pathNames path).dropLast
  if dirs.any (·.toList.contains '\x00') then (files, none)
  else
    match files.makeDirectories (files.start path) dirs with
    | (files, false) => (files, none)
    | (files, true) =>
      match openShown files path with
      | none => (files, none)
      | some (files, path) => (files, some path)

/-- Opens the log file in a directory, if one is asked for: the files afterwards and, unless the
file cannot be opened, which file there is to write to. -/
def openLogIn (files : FileTree) (service : String) :
    Option String → FileTree × Option (Option Path)
  | none => (files, some none)
  | some dir =>
    let opened := openLog files (logPath dir service)
    (opened.1, opened.2.map some)

omit [Platform] in
theorem openLogIn_some (files : FileTree) (service dir : String) :
    openLogIn files service (some dir) =
      ((openLog files (logPath dir service)).1,
        (openLog files (logPath dir service)).2.map some) := rfl

/-! ## Installing -/

/-- The event of a subscriber that was installed; only what it writes to a file tells where. -/
def initializedEvent (config : LoggingConfig) (dir : Option String) : Event where
  level := .info
  target := "geomon_core::logging"
  message := "Structured logging initialized"
  details :=
    [("service", .shown config.serviceName), ("level", .shown config.level),
     ("json", .shown (if config.jsonFormat then "true" else "false")),
     ("log_dir", .shown (match dir with
       | none => "None"
       | some dir => "Some(" ++ Text.quoted dir ++ ")"))]

/-- The failure of an installation that finds another subscriber in its place. -/
def takenFailure : Failure :=
  .base "setting global subscriber: a global default trace dispatcher has already been set"

/-- Tries to install the subscriber of a configuration. -/
def install (config : LoggingConfig) (session : Session) : Effect (Attempt Outcome) :=
  match config.fileOutputDir with
  | .error failure => .quiet session (.ended (.error failure))
  | .ok dir =>
    match chooseFilter session.env config.level with
    | .broken => .quiet session .broken
    | .ended (.error failure) => .quiet session (.ended (.error failure))
    | .ended (.ok filter) =>
      match openLogIn session.files config.serviceName dir with
      | (files, none) => .quiet { session with files := files } .broken
      | (files, some logFile) =>
        match session.global with
        | .vacant =>
          let subscriber : Subscriber := ⟨filter, config.jsonFormat, logFile⟩
          { session := { session with files := files, global := .service subscriber }
            result := .ended (.ok ())
            events := [initializedEvent config dir] }
        | _ => .quiet { session with files := files } (.ended (.error takenFailure))

/-- The session that remembers how an attempt ended, if it came to its end. -/
def remember (attempt : Attempt Outcome) (session : Session) : Session :=
  match attempt with
  | .ended outcome => { session with outcome := some outcome }
  | .broken => session

/-- Sets up logging; without a configuration, the one with all defaults is taken. The outcome of the
first attempt that came to an end is kept, and given to every caller after it. -/
def initLogging (config : Option LoggingConfig) (session : Session) : Effect (Attempt Outcome) :=
  match session.outcome with
  | some outcome => .quiet session (.ended outcome)
  | none =>
    let effect := session.install (config.getD .default)
    { effect with session := effect.session.remember effect.result }

/-- Installs a subscriber that drops everything, if there is none yet; tells whether it did. -/
def installForeign (session : Session) : Effect Bool :=
  match session.global with
  | .vacant => .quiet { session with global := .foreign } true
  | _ => .quiet session false

end Session

end MonitorCore

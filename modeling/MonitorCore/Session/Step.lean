import MonitorCore.Logging.Report
import MonitorCore.Series.Selection
import MonitorCore.Session.Install
import MonitorCore.Settings.Load

/-!
# The steps of a session

A run of a session is a list of steps. Each step changes the state, has a result unless it breaks
off, and may emit events, which the subscriber then records. Some steps come from the outside
(files and variables change, a foreign subscriber is installed), the others are what the platform
offers: setting up logging, loading the configuration, reporting failures and selecting series.
-/

namespace MonitorCore

/-- A step of a session. -/
inductive Step where
  /-- A file is written, and the directories on its way are made. -/
  | write (file : String) (content : Content)
  | makeDirectory (dir : String)
  | remove (file : String)
  | setVariable (name value : String)
  | unsetVariable (name : String)
  | getVariable (name : String)
  | installForeign
  | isInitialized
  /-- Logging is set up. -/
  | init (config : Option LoggingConfig)
  /-- The configuration is loaded; every loading meets with orders of its own. -/
  | load (order : Order) (path : Option String)
  /-- A failure is reported. -/
  | log (failure : Failure)
  /-- Series are selected. -/
  | select (analyses : List Analysis) (series : List DataSeries)

/-- The result of a step that came to its end. -/
inductive StepResult where
  | done
  | variable (value : Option String)
  | flag (b : Bool)
  | init (outcome : Outcome)
  | load (config : Except Failure CoreConfig)
  | series (selected : List DataSeries)

namespace Session

/-! ## Files -/

/-- Writes a file, unless a directory is in its place or a file on its way. -/
def writeFile (file : String) (content : Content) (files : FileTree) : FileTree :=
  let made := (files.makeDirectories (files.start file) (pathNames file).dropLast).1
  match made.resolve? file with
  | none => made
  | some path =>
    match made.at? path with
    | some .directory => made
    | _ => made.put path (.file content)

/-- Makes a directory, and those on its way. -/
def makeDirectory (dir : String) (files : FileTree) : FileTree :=
  (files.makeDirectories (files.start dir) (pathNames dir)).1

def removeFile (file : String) (files : FileTree) : FileTree :=
  match files.resolve? file with
  | none => files
  | some path =>
    match files.content? path with
    | none => files
    | some _ => files.erase path

/-! ## Steps -/

/-- Sets a variable; the attempt breaks off if there can be no such variable. -/
def setVariable (name value : String) (session : Session) : Effect (Attempt StepResult) :=
  if Environment.isName name && Environment.isValue value then
    .quiet { session with env := session.env.set name value } (.ended .done)
  else .quiet session .broken

/-- Removes a variable; the attempt breaks off if there can be no such variable. -/
def unsetVariable (name : String) (session : Session) : Effect (Attempt StepResult) :=
  if Environment.isName name then
    .quiet { session with env := session.env.unset name } (.ended .done)
  else .quiet session .broken

variable [Platform]

/-- Loads the configuration; if it was loaded, an event tells so. -/
def load (order : Order) (path : Option String) (session : Session) :
    Effect (Attempt (Except Failure CoreConfig)) :=
  let (env, attempt) := loadConfig order session.files session.env path
  let events := match attempt with
    | .ended (.ok config) => [loadedEvent config path.isSome]
    | _ => []
  ⟨{ session with env := env }, attempt, events⟩

/-- What a step does. -/
def perform (session : Session) : Step → Effect (Attempt StepResult)
  | .write file content =>
    .quiet { session with files := writeFile file content session.files } (.ended .done)
  | .makeDirectory dir =>
    .quiet { session with files := makeDirectory dir session.files } (.ended .done)
  | .remove file => .quiet { session with files := removeFile file session.files } (.ended .done)
  | .setVariable name value => session.setVariable name value
  | .unsetVariable name => session.unsetVariable name
  | .getVariable name => .quiet session (.ended (.variable (session.env.find? name)))
  | .installForeign => session.installForeign.map fun b ↦ .ended (.flag b)
  | .isInitialized => .quiet session (.ended (.flag session.isInitialized))
  | .init config => (session.initLogging config).map (Attempt.map .init)
  | .load order path => (session.load order path).map (Attempt.map .load)
  | .log failure => ⟨session, .ended .done, [failure.event]⟩
  | .select analyses series =>
    { session := session
      result := .ended (.series (Selection.select analyses series))
      events := Selection.events analyses series }

/-- Performs a step and records its events. -/
def step (session : Session) (step : Step) : Session × Attempt StepResult :=
  (session.perform step).settle .main

/-- Performs steps one after the other, and gives their results. -/
def run (session : Session) : List Step → Session × List (Attempt StepResult)
  | [] => (session, [])
  | step :: steps =>
    let (session, result) := session.step step
    let (session, results) := session.run steps
    (session, result :: results)

/-- Loads the configuration and sets up logging with it. -/
def initLoaded (order : Order) (path : Option String) (session : Session) :
    Session × Attempt Outcome :=
  match (session.load order path).settle .main with
  | (session, .broken) => (session, .broken)
  | (session, .ended (.error failure)) => (session, .ended (.error failure))
  | (session, .ended (.ok config)) => (session.initLogging (some config.logging)).settle .main

def logFiles (session : Session) : List (Path × List String) :=
  session.files.entries.filterMap fun
    | (path, .file (.log records)) => some (path, records)
    | _ => none

end Session

end MonitorCore

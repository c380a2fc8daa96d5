import MonitorCore.Failure.Basic
import MonitorCore.Json.Record

/-!
# Configuration of logging

What a service chooses about its log. Every field has a default, so a configuration may name any of
them and leave the others out.
-/

namespace MonitorCore

open Json (Format RecordFormat Slot)

/-- The configuration of logging. -/
structure LoggingConfig where
  /-- A level or a list of filter directives. -/
  level : String := "info"
  /-- The name of the service, which also names its log file. -/
  serviceName : String := "geomon-core"
  /-- Whether events also go to a file. -/
  fileOutput : Bool := false
  /-- The directory of log files, which file output needs. -/
  logDir : Option String := none
  /-- Whether lines on the console are JSON. -/
  jsonFormat : Bool := true
  deriving DecidableEq, Repr

namespace LoggingConfig

/-- The configuration that has all defaults. -/
def default : LoggingConfig := {}

/-- The directory that events go to; none if file output is off. -/
def fileOutputDir (config : LoggingConfig) : Except Failure (Option String) :=
  match config.fileOutput, config.logDir with
  | false, _ => .ok none
  | true, some dir => .ok (some dir)
  | true, none =>
    .error (.base "logging.file_output is enabled but logging.log_dir is not set")

def recordFormat : RecordFormat LoggingConfig where
  name := "LoggingConfig"
  blank := default
  slots :=
    [.of "level" false .text level fun x r ↦ { r with level := x },
     .of "service_name" false .text serviceName fun x r ↦ { r with serviceName := x },
     .of "file_output" false .flag fileOutput fun x r ↦ { r with fileOutput := x },
     .of "log_dir" false (.optional .text) logDir fun x r ↦ { r with logDir := x },
     .of "json_format" false .flag jsonFormat fun x r ↦ { r with jsonFormat := x }]

def format : Format LoggingConfig := recordFormat.toFormat

end LoggingConfig

/-- The configuration of the platform. -/
structure CoreConfig where
  logging : LoggingConfig := {}
  deriving DecidableEq, Repr

namespace CoreConfig

/-- The configuration that has all defaults. -/
def default : CoreConfig := {}

def recordFormat : RecordFormat CoreConfig where
  name := "CoreConfig"
  blank := default
  slots := [.of "logging" false LoggingConfig.format logging fun x r ↦ { r with logging := x }]

def format : Format CoreConfig := recordFormat.toFormat

end CoreConfig

end MonitorCore

import MonitorCore.Settings.Document

/-!
# The platform

The parts of other libraries that the service calls and whose rules are not its own: which values
the field of a directive can be compared with, how texts of two of the formats of configuration
files are read, in which order the formats are tried where the name of a file does not tell, and how
many items a list has room for. Everything is proved for whatever they are.
-/

namespace MonitorCore

/-- The formats of configuration files. -/
inductive FileFormat where
  | toml
  | json
  | yaml
  | ini
  | ron
  | json5
  deriving DecidableEq, Repr

namespace FileFormat

def all : List FileFormat := [toml, json, yaml, ini, ron, json5]

/-- The extensions of file names that tell the format. -/
def extensions : FileFormat → List String
  | toml => ["toml"]
  | json => ["json"]
  | yaml => ["yaml", "yml"]
  | ini => ["ini"]
  | ron => ["ron"]
  | json5 => ["json5"]

end FileFormat

class Platform where
  /-- What is wrong with a text as the value of a field in a directive, if anything is. -/
  valueComplaint? : String → Option String
  readRon : String → Option {document : Document // document.Distinct}
  readJson5 : String → Option {document : Document // document.Distinct}
  /-- The formats in the order in which they are tried. -/
  formats : List FileFormat
  formats_perm : formats.Perm FileFormat.all
  /-- The most items that a list has room for. -/
  room : Nat

/-- The platform that examples are about: every text is the value of a field, and none is RON or
JSON5. -/
abbrev Platform.plain : Platform where
  valueComplaint? _ := none
  readRon _ := none
  readJson5 _ := none
  formats := FileFormat.all
  formats_perm := .refl _
  room := 4294967296

end MonitorCore

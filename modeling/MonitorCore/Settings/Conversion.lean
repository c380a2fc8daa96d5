import MonitorCore.Logging.Config
import MonitorCore.Settings.Setting
import MonitorCore.Text.Lowercase
import MonitorCore.Text.Quoted

/-!
# Settings as a configuration

A setting is converted to the type of the field it is for: a text also takes truth values and
numbers, and a truth value also takes numbers and the usual words. The settings of logging are a
table, or a list of the fields in declaration order; a field without a setting keeps its default.

The members of a table come in any order, and so do the fields that they are for. Of several that do
not convert the one that comes first is reported.
-/

namespace MonitorCore

open Decimal (Binary64 Layout)

/-- Why settings are no configuration. -/
inductive ConversionError where
  /-- The setting of a field is of a type that does not convert. -/
  | field (found wanted : String) (key : String) (origin : Option String)
  /-- There is something else in place of the fields. -/
  | record (found wanted : String)
  deriving DecidableEq, Repr

def ConversionError.message : ConversionError → String
  | field found wanted key origin =>
    "invalid type: " ++ found ++ ", expected " ++ wanted ++ " for key `" ++ key ++ "`"
      ++ (match origin with
        | none => ""
        | some origin => " in " ++ origin)
  | record found wanted => "invalid type: " ++ found ++ ", expected " ++ wanted

/-- A double in place of a record: every digit positional, whole numbers with a point. -/
def pointedLayout : Layout := { tieUp := true, positional := none, wholeShowsPoint := true }

def boolText (b : Bool) : String := if b then "true" else "false"

/-- The words for a scalar in an error; `layout` is that of doubles. -/
def Scalar.describe (layout : Layout) : Scalar → String
  | nil => "unit value"
  | boolean b => "boolean `" ++ boolText b ++ "`"
  | integer i => "integer `" ++ String.ofList (Json.printInt i) ++ "`"
  | float x => "floating point `" ++ layout.write x ++ "`"
  | text s => "string " ++ Text.quoted s

namespace Setting

def origin : Setting → Option String
  | scalar origin _ => origin
  | list origin _ => origin
  | table origin _ => origin

def describe (layout : Layout) : Setting → String
  | scalar _ value => value.describe layout
  | list _ _ => "sequence"
  | table _ _ => "map"

/-! ## Fields -/

/-- A conversion of a setting; what does not convert is described. -/
abbrev Conversion (α : Type) := Setting → Except String α

/-- A text: truth values and numbers are written out. -/
def toText : Conversion String
  | scalar _ (.text s) => .ok s
  | scalar _ (.boolean b) => .ok (boolText b)
  | scalar _ (.integer i) => .ok (String.ofList (Json.printInt i))
  | scalar _ (.float x) => .ok (Decimal.plain.write x)
  | setting => .error (setting.describe Decimal.plain)

/-- The truth value that a word names, capitals or not. -/
def flagWord? (word : String) : Option Bool :=
  if word ∈ ["1", "true", "on", "yes"] then some true
  else if word ∈ ["0", "false", "off", "no"] then some false
  else none

/-- A truth value: a number is true unless it is zero. -/
def toFlag : Conversion Bool
  | scalar _ (.boolean b) => .ok b
  | scalar _ (.integer i) => .ok (i != 0)
  | scalar _ (.float x) => .ok (!x.isZero)
  | scalar _ (.text s) =>
    match flagWord? (Text.lowercase s) with
    | some b => .ok b
    | none => .error ((Scalar.text (Text.lowercase s)).describe Decimal.plain)
  | setting => .error (setting.describe Decimal.plain)

/-- An optional text: nil is none. -/
def toOptionalText : Conversion (Option String)
  | scalar _ .nil => .ok none
  | setting => (toText setting).map some

/-- A field of the configuration of logging, and how a setting changes it. -/
structure Field where
  key : String
  wanted : String
  convert : Conversion (LoggingConfig → LoggingConfig)

/-- The field with a conversion of its type. -/
def Field.of {α : Type} (key wanted : String) (convert : Conversion α)
    (set : α → LoggingConfig → LoggingConfig) : Field :=
  ⟨key, wanted, fun setting ↦ (convert setting).map set⟩

/-- The fields in declaration order. -/
def fields : List Field :=
  [.of "level" "a string" toText fun x config ↦ { config with level := x },
   .of "service_name" "a string" toText fun x config ↦ { config with serviceName := x },
   .of "file_output" "a boolean" toFlag fun x config ↦ { config with fileOutput := x },
   .of "log_dir" "a string" toOptionalText fun x config ↦ { config with logDir := x },
   .of "json_format" "a boolean" toFlag fun x config ↦ { config with jsonFormat := x }]

/-- Sets a field from a setting that stands under the given key. -/
def Field.apply (field : Field) (key : String) (setting : Setting) (config : LoggingConfig) :
    Except ConversionError LoggingConfig :=
  match field.convert setting with
  | .ok update => .ok (update config)
  | .error found => .error (.field found field.wanted key setting.origin)

/-! ## Records -/

/-- Sets the fields that have a setting in a table, in the order in which the fields are given. -/
def fromTable (table : Setting) : List Field → LoggingConfig →
    Except ConversionError LoggingConfig
  | [], config => .ok config
  | field :: fields, config =>
    match member? field.key table with
    | none => fromTable table fields config
    | some setting =>
      match field.apply ("logging." ++ field.key) setting config with
      | .ok config => fromTable table fields config
      | .error reason => .error reason

/-- Sets the fields from the items of a list, of which `n` are used already. Items beyond the fields
are passed over. -/
def fromList (n : Nat) : List Setting → List Field → LoggingConfig →
    Except ConversionError LoggingConfig
  | setting :: settings, field :: fields, config =>
    match
      field.apply ("logging[" ++ String.ofList (Nat.toDigits 10 n) ++ "]") setting config with
    | .ok config => fromList (n + 1) settings fields config
    | .error reason => .error reason
  | _, _, config => .ok config

/-- The configuration of logging from its settings. -/
def toLoggingConfig (order : Shuffle Field) (setting : Setting) :
    Except ConversionError LoggingConfig :=
  match setting with
  | table _ _ => fromTable setting (order.apply fields) .default
  | list _ items => fromList 0 items fields .default
  | scalar _ value => .error (.record (value.describe pointedLayout) "struct LoggingConfig")

def toConfig (order : Shuffle Field) (root : Setting) : Except ConversionError CoreConfig :=
  match member? "logging" root with
  | none => .ok .default
  | some setting => (toLoggingConfig order setting).map CoreConfig.mk

end Setting

end MonitorCore

import MonitorCore.Json.Variant

/-!
# Kinds of failure

The closed list of what can fail on the platform. A *simple* kind is an operational fault that a
message describes; a *validation* kind is input that broke rules, described field by field.

A kind has a *name*, by which it stands in JSON, and a *title*, by which clients know it. No name
and no title belongs to two kinds.
-/

namespace MonitorCore

open Json (Variants Format)

/-- The kinds of failure that a message describes. -/
inductive SimpleKind where
  /-- Anything without a kind of its own. -/
  | base
  /-- The persistence layer cannot be reached or failed. -/
  | dataManager
  /-- A remote provider did not answer. -/
  | connection
  /-- A resource identifier is ill formed. -/
  | uri
  /-- A plugin could not be loaded. -/
  | plugin
  /-- A schedule is inconsistent. -/
  | schedule
  /-- A collector is inconsistent. -/
  | collector
  /-- A collector filter is inconsistent. -/
  | filter
  /-- An analysis is inconsistent. -/
  | analysis
  /-- A service signal is invalid. -/
  | signal
  /-- A service type is invalid. -/
  | serviceType
  deriving DecidableEq, Repr

/-- The kinds of failure that records describe field by field. -/
inductive ValidationKind where
  | validation
  | dataProvider
  | dataSeries
  | dataSet
  | service
  | project
  | user
  | dataSeriesSemantics
  | dataFormat
  deriving DecidableEq, Repr

namespace SimpleKind

/-- All simple kinds in declaration order. -/
def all : List SimpleKind :=
  [base, dataManager, connection, uri, plugin, schedule, collector, filter, analysis, signal,
   serviceType]

def name : SimpleKind → String
  | base => "Base"
  | dataManager => "DataManager"
  | connection => "Connection"
  | uri => "Uri"
  | plugin => "Plugin"
  | schedule => "Schedule"
  | collector => "Collector"
  | filter => "Filter"
  | analysis => "Analysis"
  | signal => "Signal"
  | serviceType => "ServiceType"

def title (kind : SimpleKind) : String := kind.name ++ "Error"

def variants : Variants SimpleKind := ⟨all, name⟩

def format : Format SimpleKind := variants.format

end SimpleKind

namespace ValidationKind

/-- All validation kinds in declaration order. -/
def all : List ValidationKind :=
  [validation, dataProvider, dataSeries, dataSet, service, project, user, dataSeriesSemantics,
   dataFormat]

def name : ValidationKind → String
  | validation => "Validation"
  | dataProvider => "DataProvider"
  | dataSeries => "DataSeries"
  | dataSet => "DataSet"
  | service => "Service"
  | project => "Project"
  | user => "User"
  | dataSeriesSemantics => "DataSeriesSemantics"
  | dataFormat => "DataFormat"

def title (kind : ValidationKind) : String := kind.name ++ "Error"

def variants : Variants ValidationKind := ⟨all, name⟩

def format : Format ValidationKind := variants.format

end ValidationKind

/-- A kind of failure, of either shape. -/
inductive FailureKind where
  | simple (kind : SimpleKind)
  | validation (kind : ValidationKind)
  deriving DecidableEq, Repr

namespace FailureKind

def name : FailureKind → String
  | simple kind => kind.name
  | validation kind => kind.name

def title : FailureKind → String
  | simple kind => kind.title
  | validation kind => kind.title

/-- Whether failures of the kind carry records. -/
def isValidation : FailureKind → Bool
  | simple _ => false
  | validation _ => true

/-- The kind with its shape spelled out, as in `Simple(Base)`. -/
def shown : FailureKind → String
  | simple kind => "Simple(" ++ kind.name ++ ")"
  | validation kind => "Validation(" ++ kind.name ++ ")"

/-- The JSON format of a kind: its name alone, which also tells the shape. -/
def format : Format FailureKind :=
  (Json.eitherVariant "FailureKind" SimpleKind.variants ValidationKind.variants).along
    (fun
      | .inl kind => simple kind
      | .inr kind => validation kind)
    (fun
      | simple kind => .inl kind
      | validation kind => .inr kind)

end FailureKind

end MonitorCore

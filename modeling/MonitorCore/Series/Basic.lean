/-!
# Data series and analyses

The records that the persistence layer hands over: a data series is a named collection of data
sets, and an analysis is a computation whose declared output is one data set. They are made once
per request and never changed.
-/

namespace MonitorCore

abbrev Id := UInt64

/-- How the data of a series evolves. -/
inductive Temporality where
  /-- The data does not change. -/
  | static
  /-- The data is collected or produced over time. -/
  | dynamic
  deriving DecidableEq, Repr

/-- A unit of data within a series. -/
structure DataSet where
  id : Id
  deriving DecidableEq, Repr

/-- A named collection of data sets. -/
structure DataSeries where
  id : Id
  name : String
  temporality : Temporality
  dataSets : List DataSet
  deriving DecidableEq, Repr

namespace DataSeries

/-- The series with data sets of the given identifiers. -/
def ofIds (id : Id) (name : String) (temporality : Temporality) (dataSetIds : List Id) :
    DataSeries :=
  ⟨id, name, temporality, dataSetIds.map DataSet.mk⟩

/-- Whether the data of the series does not change. -/
def isStatic (series : DataSeries) : Bool := series.temporality == .static

/-- Whether one of the data sets has the identifier. -/
def holds (series : DataSeries) (dataSetId : Id) : Bool :=
  series.dataSets.any fun dataSet ↦ dataSet.id == dataSetId

end DataSeries

/-- A computation whose output is one data set. -/
structure Analysis where
  id : Id
  name : String
  outputId : Id
  deriving DecidableEq, Repr

end MonitorCore

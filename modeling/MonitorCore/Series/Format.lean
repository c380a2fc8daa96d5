import MonitorCore.Json.Record
import MonitorCore.Json.Variant
import MonitorCore.Series.Basic

/-!
# Data series and analyses in JSON

A name that is absent is empty, and a series without data sets may leave their list out.
-/

namespace MonitorCore

open Json (Format RecordFormat Slot Variants)

namespace Temporality

def name : Temporality → String
  | static => "STATIC"
  | dynamic => "DYNAMIC"

def variants : Variants Temporality := ⟨[static, dynamic], name⟩

def format : Format Temporality := variants.format

end Temporality

def DataSet.recordFormat : RecordFormat DataSet where
  name := "DataSet"
  blank := ⟨0⟩
  slots := [.of "id" true .id DataSet.id fun x r ↦ { r with id := x }]

def DataSet.format : Format DataSet := DataSet.recordFormat.toFormat

def DataSeries.recordFormat : RecordFormat DataSeries where
  name := "DataSeries"
  blank := ⟨0, "", .static, []⟩
  slots :=
    [.of "id" true .id DataSeries.id fun x r ↦ { r with id := x },
     .of "name" false .text DataSeries.name fun x r ↦ { r with name := x },
     .of "temporality" true Temporality.format DataSeries.temporality
       fun x r ↦ { r with temporality := x },
     .of "data_sets" false (.list DataSet.format) DataSeries.dataSets
       fun x r ↦ { r with dataSets := x }]

def DataSeries.format : Format DataSeries := DataSeries.recordFormat.toFormat

def Analysis.recordFormat : RecordFormat Analysis where
  name := "Analysis"
  blank := ⟨0, "", 0⟩
  slots :=
    [.of "id" true .id Analysis.id fun x r ↦ { r with id := x },
     .of "name" false .text Analysis.name fun x r ↦ { r with name := x },
     .of "dataset_output_id" true .id Analysis.outputId fun x r ↦ { r with outputId := x }]

def Analysis.format : Format Analysis := Analysis.recordFormat.toFormat

end MonitorCore

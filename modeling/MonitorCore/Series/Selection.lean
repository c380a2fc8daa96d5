import MonitorCore.Logging.Event
import MonitorCore.Series.Basic

/-!
# Selecting the series that analyses produce

Each analysis in turn claims the first series that is not static, holds the data set that is the
analysis's output, and has not been claimed before. A claimed series leaves the pool, so it is
returned at most once.

## Claims

Claiming is the same loop whatever is claimed: each subject takes the first entry of the pool that
serves it. `claims` is that loop for any kind of subject and entry, and its result lists, subject by
subject, what was taken. The selected series and the events are read off this list.
-/

namespace MonitorCore

namespace Selection

section Claims

variable {σ α : Type}

/-- What each subject claims from a pool, in the order of the subjects: the first entry that serves
it, which then leaves the pool. -/
def claims (serves : σ → α → Bool) : List σ → List α → List (Option α)
  | [], _ => []
  | subject :: subjects, pool =>
    pool.find? (serves subject) :: claims serves subjects (pool.eraseP (serves subject))

/-- Every subject has its place in the list, whether it claims anything or not. -/
@[simp] theorem length_claims (serves : σ → α → Bool) (subjects : List σ) (pool : List α) :
    (claims serves subjects pool).length = subjects.length := by
  induction subjects generalizing pool with
  | nil => rfl
  | cons subject subjects ih => rw [claims, List.length_cons, ih, List.length_cons]

end Claims

/-- The series that can be claimed at all. -/
def pool (series : List DataSeries) : List DataSeries :=
  series.filter fun series ↦ !series.isStatic

/-- What each analysis claims from a list of series. -/
def run (analyses : List Analysis) (series : List DataSeries) : List (Option DataSeries) :=
  claims (fun analysis series ↦ series.holds analysis.outputId) analyses (pool series)

@[simp] theorem length_run (analyses : List Analysis) (series : List DataSeries) :
    (run analyses series).length = analyses.length := length_claims _ analyses (pool series)

/-- The claimed series, in the order of the analyses that claim them. -/
def select (analyses : List Analysis) (series : List DataSeries) : List DataSeries :=
  (run analyses series).filterMap id

/-! ## Events -/

/-- Where the events of a selection come from. -/
def target : String := "geomon_core::filters::analysis"

/-- The event of an analysis and its claim. -/
def claimEvent (analysis : Analysis) : Option DataSeries → Event
  | some series =>
    { level := .debug
      target := target
      message := "Analysis claimed data series"
      details :=
        [("analysis_id", .number analysis.id.toNat),
         ("data_series_id", .number series.id.toNat),
         ("dataset_output_id", .number analysis.outputId.toNat)] }
  | none =>
    { level := .trace
      target := target
      message := "No unclaimed data series for analysis"
      details :=
        [("analysis_id", .number analysis.id.toNat),
         ("dataset_output_id", .number analysis.outputId.toNat)] }

/-- The event that ends a selection. The candidates are all series that were given, static ones
included. -/
def summaryEvent (analyses candidates matched : Nat) : Event where
  level := .debug
  target := target
  message := "Analysis filter applied"
  details :=
    [("analyses", .number analyses), ("candidates", .number candidates),
     ("matched", .number matched)]

/-- The events of a selection: one for each analysis, and the summary. -/
def events (analyses : List Analysis) (series : List DataSeries) : List Event :=
  List.zipWith claimEvent analyses (run analyses series)
    ++ [summaryEvent analyses.length series.length (select analyses series).length]

end Selection

end MonitorCore

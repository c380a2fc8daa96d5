import MonitorCore.Proofs.Selection.Position

/-!
# What a selection reports

Besides the series that it returns, a selection emits events. They name analyses and series by their
identifiers only, which may repeat, and so it is by its place that an event belongs to an analysis:
the events before the last one stand in the order of the analyses, one for each.

## Two outputs of one run

The events and the returned series are told from the same claims, analysis by analysis. A claim
adds a claim event and a returned series, and an analysis that finds nothing adds an event of
another sort and no series (`claimedIds_claimEvent_cons`); hence the claim events name the returned
series in their order. The summary is no claim event, and so the number of matched analyses that it
gives can be checked against the events before it.
-/

namespace MonitorCore

namespace Selection

/-! ## Reading events -/

/-- Whether the event reports a claim. No other event of a selection has this message. -/
def tellsClaim (event : Event) : Bool := event.message == "Analysis claimed data series"

/-- What the claim events among the events tell as the identifier of the claimed series. -/
def claimedIds (events : List Event) : List (Option FieldValue) :=
  (events.filter tellsClaim).map fun event ↦ event.details.lookup "data_series_id"

/-- The event reports what the analysis claimed. -/
structure Reports (analysis : Analysis) (claim : Option DataSeries) (event : Event) : Prop where
  target : event.target = "geomon_core::filters::analysis"
  /-- A claim is told at a higher level than a search that found nothing. -/
  level : event.level = if claim.isSome then .debug else .trace
  tellsClaim : tellsClaim event = claim.isSome
  analysisId : event.details.lookup "analysis_id" = some (.number analysis.id.toNat)
  outputId : event.details.lookup "dataset_output_id" = some (.number analysis.outputId.toNat)
  /-- There is such a field exactly if a series was claimed. -/
  seriesId : event.details.lookup "data_series_id" = claim.map fun s ↦ .number s.id.toNat

/-- The event sums up a selection by the numbers of analyses, of series to choose from, and of
analyses that claimed one. -/
structure Summarizes (analyses candidates matched : ℕ) (event : Event) : Prop where
  target : event.target = "geomon_core::filters::analysis"
  level : event.level = .debug
  tellsClaim : tellsClaim event = false
  analyses : event.details.lookup "analyses" = some (.number analyses)
  candidates : event.details.lookup "candidates" = some (.number candidates)
  matched : event.details.lookup "matched" = some (.number matched)

theorem reports_claimEvent (analysis : Analysis) (claim : Option DataSeries) :
    Reports analysis claim (claimEvent analysis claim) := by
  cases claim with
  | none => exact ⟨rfl, rfl, rfl, rfl, rfl, rfl⟩
  | some s => exact ⟨rfl, rfl, rfl, rfl, rfl, rfl⟩

theorem summarizes_summaryEvent (analyses candidates matched : ℕ) :
    Summarizes analyses candidates matched (summaryEvent analyses candidates matched) :=
  ⟨rfl, rfl, rfl, rfl, rfl, rfl⟩

/-! ## The claim events -/

/-- **The step.** The event of an analysis tells a series exactly if the analysis claims it. -/
theorem claimedIds_claimEvent_cons (analysis : Analysis) (claim : Option DataSeries)
    (later : List Event) :
    claimedIds (claimEvent analysis claim :: later)
      = (claim.toList.map fun s ↦ some (.number s.id.toNat)) ++ claimedIds later := by
  have hreports := reports_claimEvent analysis claim
  rw [claimedIds, List.filter_cons, hreports.tellsClaim]
  cases claim with
  | none => rfl
  | some s =>
    rw [Option.isSome_some, if_pos rfl, List.map_cons, hreports.seriesId]
    rfl

/-- **The run.** The claim events tell what was claimed, in the order of the claims. -/
theorem claimedIds_claims (serves : Analysis → DataSeries → Bool) (analyses : List Analysis)
    (pool : List DataSeries) (later : List Event) :
    claimedIds (List.zipWith claimEvent analyses (claims serves analyses pool) ++ later)
      = ((claims serves analyses pool).filterMap id).map (fun s ↦ some (.number s.id.toNat))
        ++ claimedIds later := by
  induction analyses generalizing pool with
  | nil => rfl
  | cons analysis analyses ih =>
    rw [claims, List.zipWith_cons_cons, List.cons_append, claimedIds_claimEvent_cons, ih,
      ← List.append_assoc, ← List.map_append]
    cases pool.find? (serves analysis) with
    | none => rfl
    | some s => rfl

variable (analyses : List Analysis) (series : List DataSeries)

theorem claimedIds_events :
    claimedIds (events analyses series)
      = (select analyses series).map fun s ↦ some (.number s.id.toNat) := by
  have hsummary := summarizes_summaryEvent analyses.length series.length
    (select analyses series).length
  have hlast : claimedIds [summaryEvent analyses.length series.length
      (select analyses series).length] = [] := by
    rw [claimedIds, List.filter_cons_of_neg (by rw [hsummary.tellsClaim]; decide)]
    rfl
  rw [events, run, claimedIds_claims, hlast, List.append_nil]
  rfl

theorem countP_tellsClaim_events :
    (events analyses series).countP tellsClaim = (select analyses series).length := by
  have hlen := congrArg List.length (claimedIds_events analyses series)
  rw [claimedIds, List.length_map, List.length_map] at hlen
  rw [List.countP_eq_length_filter, hlen]

/-! ## The events by their places -/

private theorem length_zipWith_claimEvent :
    (List.zipWith claimEvent analyses (run analyses series)).length = analyses.length := by
  rw [List.length_zipWith, length_run, Nat.min_self]

@[simp] theorem length_events : (events analyses series).length = analyses.length + 1 := by
  rw [events, List.length_append, length_zipWith_claimEvent, List.length_singleton]

theorem getElem?_events (i : Fin analyses.length) :
    (events analyses series)[i.val]?
      = some (claimEvent (analyses.get i) ((claimOf analyses series i).map series.get)) := by
  have hi : i.val < (List.zipWith claimEvent analyses (run analyses series)).length := by
    rw [length_zipWith_claimEvent]
    exact i.isLt
  rw [events, List.getElem?_append_left hi, List.getElem?_zipWith, getElem?_run,
    List.getElem?_eq_getElem i.isLt]
  rfl

/-- **The events of a selection** are one for each analysis, which reports what the analysis claims,
and a summary that counts the claim events. The series that the claim events tell are the returned
ones, in their order. -/
theorem events_report_claims :
    (events analyses series).length = analyses.length + 1 ∧
      (∀ i : Fin analyses.length, ∃ event, (events analyses series)[i.val]? = some event ∧
        Reports (analyses.get i) ((claimOf analyses series i).map series.get) event) ∧
      (∃ event, (events analyses series).getLast? = some event ∧
        Summarizes analyses.length series.length ((events analyses series).countP tellsClaim)
          event) ∧
      claimedIds (events analyses series)
        = (select analyses series).map fun s ↦ some (.number s.id.toNat) := by
  refine ⟨length_events analyses series, fun i ↦ ?_, ?_, claimedIds_events analyses series⟩
  · exact ⟨_, getElem?_events analyses series i, reports_claimEvent _ _⟩
  · rw [countP_tellsClaim_events, events, List.getLast?_concat]
    exact ⟨_, rfl, summarizes_summaryEvent _ _ _⟩

end Selection

end MonitorCore

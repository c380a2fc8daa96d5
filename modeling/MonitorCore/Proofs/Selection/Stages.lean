import Mathlib.Data.List.Perm.Basic
import MonitorCore.Proofs.Selection.Position
import MonitorCore.Series.Pipeline

/-!
# Selections in stages

The analyses can be handed over in chunks: each chunk selects from the series that the earlier ones
have left. Within one selection a claim takes one *entry* out of the pool, whereas between two
stages of a pipeline every series goes that *equals* a returned one. The two are the same if the
series that can be claimed are distinct; the static ones need not be, since none of them equals a
series that was returned.

## One chunk and the rest

A selection by `before ++ after` is a selection by `before`, followed by one by `after` from what is
left (`select_append`). The stages of a pipeline repeat this step. The induction over the chunks
hands on that the series are distinct, and that what was returned is not met again.
-/

namespace MonitorCore

namespace Selection

def without (returned series : List DataSeries) : List DataSeries :=
  series.filter fun s ↦ decide (s ∉ returned)

theorem mem_without {returned series : List DataSeries} {s : DataSeries} :
    s ∈ without returned series ↔ s ∈ series ∧ s ∉ returned := by
  rw [without, List.mem_filter, decide_eq_true_iff]

@[simp] theorem without_nil (series : List DataSeries) : without [] series = series :=
  List.filter_eq_self.mpr fun _ _ ↦ decide_eq_true List.not_mem_nil

theorem without_without (returned more series : List DataSeries) :
    without more (without returned series) = without (returned ++ more) series := by
  rw [without, without, without, List.filter_filter]
  refine List.filter_congr fun s _ ↦ ?_
  rw [← Bool.decide_and, decide_eq_decide, List.mem_append, not_or, and_comm]

theorem pool_without (returned series : List DataSeries) :
    pool (without returned series) = without returned (pool series) := by
  rw [pool, pool, without, without, List.filter_comm]

/-! ## One chunk and the rest -/

variable {series : List DataSeries}

theorem remaining_pool (h : (pool series).Nodup) (analyses : List Analysis) :
    remaining (fun analysis s ↦ DataSeries.holds s analysis.outputId) analyses (pool series)
      = pool (without (select analyses series) series) := by
  rw [remaining_eq_filter _ _ h, pool_without]
  rfl

/-- **A selection in two parts.** The later analyses select from what the earlier ones have left. -/
theorem select_append (h : (pool series).Nodup) (before after : List Analysis) :
    select (before ++ after) series
      = select before series ++ select after (without (select before series) series) := by
  rw [select, run, claims_append, List.filterMap_append, remaining_pool h]
  rfl

theorem nodup_pool_without (h : (pool series).Nodup) (returned : List DataSeries) :
    (pool (without returned series)).Nodup := by
  rw [pool_without]
  exact h.filter _

theorem filter_isStatic_without_select (analyses : List Analysis) (series : List DataSeries) :
    (without (select analyses series) series).filter (·.isStatic)
      = series.filter (·.isStatic) := by
  rw [without, List.filter_filter]
  refine List.filter_congr fun s _ ↦ ?_
  cases hs : s.isStatic with
  | false => rfl
  | true =>
    refine decide_eq_true fun hmem ↦ ?_
    have hpool := (mem_pool.mp (mem_pool_and_holds_of_mem_select hmem).1).2
    rw [hs] at hpool
    exact absurd hpool (by decide)

end Selection

namespace Pipeline

open Selection

/-- The steps that take the chunks one after the other, each on what the earlier ones have left. -/
def inChunks (chunks : List (List Analysis)) : List Step :=
  chunks.map fun analyses ↦ ⟨analyses, .rest⟩

/-- The pool after the last one of the stages from a pool. -/
def finalPool (series : List DataSeries) (stages : List Stage) : List DataSeries :=
  (stages.getLast?.map Stage.pool).getD series

theorem finalPool_cons (series : List DataSeries) (stage : Stage) (stages : List Stage) :
    finalPool series (stage :: stages) = finalPool stage.pool stages := by
  cases stages with
  | nil => rfl
  | cons later stages =>
    rw [finalPool, finalPool, List.getLast?_cons_cons]
    rfl

theorem apply_rest (series returned : List DataSeries) :
    Next.rest.apply series returned = without returned series :=
  List.filter_congr fun s _ ↦ by rw [List.contains_eq_mem, decide_not]

theorem run_inChunks_cons (analyses : List Analysis) (chunks : List (List Analysis))
    (series : List DataSeries) :
    ∃ stage : Stage, stage.output = select analyses series ∧
      stage.pool = without (select analyses series) series ∧
      run (inChunks (analyses :: chunks)) series
        = stage :: run (inChunks chunks) (without (select analyses series) series) := by
  refine ⟨Step.run ⟨analyses, .rest⟩ series, rfl, apply_rest _ _, ?_⟩
  rw [inChunks, List.map_cons, run, Step.run, apply_rest]
  rfl

variable {series : List DataSeries}

/-- The outputs of the stages, one after the other, are one selection. -/
theorem flatMap_output_run_inChunks (h : (pool series).Nodup) (chunks : List (List Analysis)) :
    (run (inChunks chunks) series).flatMap Stage.output = select chunks.flatten series := by
  induction chunks generalizing series with
  | nil => rfl
  | cons analyses chunks ih =>
    obtain ⟨stage, houtput, -, hrun⟩ := run_inChunks_cons analyses chunks series
    rw [hrun, List.flatMap_cons, houtput, ih (nodup_pool_without h _), List.flatten_cons,
      select_append h]

theorem pairwise_disjoint_run_inChunks (h : (pool series).Nodup) (chunks : List (List Analysis)) :
    (run (inChunks chunks) series).Pairwise fun s t ↦ s.output.Disjoint t.output := by
  induction chunks generalizing series with
  | nil => exact List.Pairwise.nil
  | cons analyses chunks ih =>
    obtain ⟨stage, houtput, -, hrun⟩ := run_inChunks_cons analyses chunks series
    have hrest := nodup_pool_without h (select analyses series)
    rw [hrun, List.pairwise_cons]
    refine ⟨fun later hlater s hs hmem ↦ ?_, ih hrest⟩
    -- a later stage returns only what the first one left
    have hselect : s ∈ select chunks.flatten (without (select analyses series) series) := by
      rw [← flatMap_output_run_inChunks hrest]
      exact List.mem_flatMap.mpr ⟨later, hlater, hmem⟩
    have hwithout := (mem_pool.mp (mem_pool_and_holds_of_mem_select hselect).1).1
    rw [houtput] at hs
    exact (mem_without.mp hwithout).2 hs

theorem finalPool_run_inChunks (h : (pool series).Nodup) (chunks : List (List Analysis)) :
    finalPool series (run (inChunks chunks) series)
      = without (select chunks.flatten series) series := by
  induction chunks generalizing series with
  | nil => exact (without_nil series).symm
  | cons analyses chunks ih =>
    obtain ⟨stage, -, hpool, hrun⟩ := run_inChunks_cons analyses chunks series
    rw [hrun, finalPool_cons, hpool, ih (nodup_pool_without h _), without_without,
      List.flatten_cons, select_append h]

/-- **A selection in chunks.** If the series that can be claimed are distinct, the stages return
together what one selection returns, no two of them return the same series, and what they leave is
what was not returned, in its order and with all static series. -/
theorem run_inChunks (h : (pool series).Nodup) (chunks : List (List Analysis)) :
    let stages := run (inChunks chunks) series
    stages.flatMap Stage.output = select chunks.flatten series ∧
      stages.Pairwise (fun s t ↦ s.output.Disjoint t.output) ∧
      finalPool series stages = series.filter (fun s ↦ decide (s ∉ select chunks.flatten series)) ∧
      (finalPool series stages).filter (·.isStatic) = series.filter (·.isStatic) := by
  refine ⟨flatMap_output_run_inChunks h chunks, pairwise_disjoint_run_inChunks h chunks,
    finalPool_run_inChunks h chunks, ?_⟩
  rw [finalPool_run_inChunks h, filter_isStatic_without_select]

/-- A static series may be in the pool twice, and a chunk may be empty. -/
theorem run_inChunks_three :
    let series : List DataSeries :=
      [.ofIds 1 "fires" .dynamic [10, 20], .ofIds 2 "borders" .static [10],
        .ofIds 2 "borders" .static [10], .ofIds 3 "roads" .dynamic [10],
        .ofIds 4 "floods" .dynamic [20]]
    let chunks : List (List Analysis) :=
      [[⟨1, "a", 10⟩], [], [⟨2, "b", 20⟩, ⟨3, "c", 10⟩, ⟨4, "d", 20⟩]]
    let stages := run (inChunks chunks) series
    (pool series).Nodup ∧
      stages.map (fun stage ↦ stage.output.map (·.id)) = [[1], [], [4, 3]] ∧
      stages.flatMap Stage.output = select chunks.flatten series ∧
      stages.Pairwise (fun s t ↦ s.output.Disjoint t.output) ∧
      finalPool series stages = series.filter (fun s ↦ decide (s ∉ select chunks.flatten series)) ∧
      (finalPool series stages).filter (·.isStatic) = series.filter (·.isStatic) := by
  intro series chunks stages
  have hnodup : (pool series).Nodup := by decide
  exact ⟨hnodup, by decide, run_inChunks hnodup chunks⟩

end Pipeline

end MonitorCore

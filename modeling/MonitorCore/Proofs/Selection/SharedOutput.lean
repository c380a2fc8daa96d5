import MonitorCore.Proofs.Selection.Assignment

/-!
# Analyses with the same output

Several analyses may have the same output, and then they compete for the series that hold it. Other
analyses come in between and may take such series too. All the same, those with one output are
served in their order: the first so many of them claim a series, each one further behind than the
one before it, and the rest find nothing, since nothing is left for them.

The reason is that what is free for a later one of them was free for the earlier ones
(`Free.of_le`). So a later one finds nothing if an earlier one found nothing, and otherwise
something that the earlier one passed over (`follows_claimOf`).
-/

namespace MonitorCore

namespace Selection

/-! ## An earlier claim and a later one -/

/-- What can be claimed later for the same output: nothing if nothing was found before, and only
what is further behind. -/
structure Follows {n : ℕ} (earlier later : Option (Fin n)) : Prop where
  eq_none : earlier = none → later = none
  lt : ∀ j k, earlier = some j → later = some k → j < k

/-- The claims of which each follows the ones before it begin with places in increasing order, and
nothing is claimed after those. -/
theorem exists_eq_places_append_none {n : ℕ} {l : List (Option (Fin n))}
    (h : l.Pairwise Follows) :
    ∃ (places : List (Fin n)) (k : ℕ),
      l = places.map some ++ List.replicate k none ∧ places.Pairwise (· < ·) := by
  induction l with
  | nil => exact ⟨[], 0, rfl, .nil⟩
  | cons claim l ih =>
    obtain ⟨hclaim, hlater⟩ := List.pairwise_cons.mp h
    rcases claim with _ | j
    · have hnone : l = List.replicate l.length none :=
        List.eq_replicate_of_mem fun later hmem ↦ (hclaim later hmem).eq_none rfl
      refine ⟨[], l.length + 1, ?_, .nil⟩
      rw [List.map_nil, List.nil_append, List.replicate_succ, ← hnone]
    · obtain ⟨places, k, rfl, hplaces⟩ := ih hlater
      refine ⟨j :: places, k, rfl, List.pairwise_cons.mpr ⟨?_, hplaces⟩⟩
      intro j' hj'
      have hmem : some j' ∈ places.map some ++ List.replicate k none :=
        List.mem_append_left _ (List.mem_map_of_mem hj')
      exact (hclaim _ hmem).lt j j' rfl rfl

section Claims

variable {analyses : List Analysis} {series : List DataSeries}

theorem Free.of_le {c : Fin analyses.length → Option (Fin series.length)}
    {i i' : Fin analyses.length} (hle : i ≤ i')
    (hsame : (analyses.get i).outputId = (analyses.get i').outputId) {j : Fin series.length}
    (h : Free analyses series c i' j) : Free analyses series c i j := by
  obtain ⟨hsuits, hunclaimed⟩ := h
  constructor
  · rwa [suits, hsame]
  · intro k hk
    exact hunclaimed k (lt_of_lt_of_le hk hle)

/-- **Two analyses with the same output.** -/
theorem follows_claimOf {i i' : Fin analyses.length} (hlt : i < i')
    (hsame : (analyses.get i).outputId = (analyses.get i').outputId) :
    Follows (claimOf analyses series i) (claimOf analyses series i') := by
  have hfit := firstFit_claimOf analyses series
  constructor
  · intro hnone
    rw [hfit.eq_none_iff] at hnone ⊢
    intro j hj
    exact hnone j (hj.of_le hlt.le hsame)
  · intro j k hj hk
    obtain ⟨-, hleast⟩ := (hfit.eq_some_iff i j).mp hj
    obtain ⟨hfree, -⟩ := (hfit.eq_some_iff i' k).mp hk
    have hle : j ≤ k := hleast (hfree.of_le hlt.le hsame)
    have hne : j ≠ k := by
      rintro rfl
      exact hfree.2 i hlt hj
    exact lt_of_le_of_ne hle hne

end Claims

/-! ## All analyses with one output -/

variable (analyses : List Analysis) (series : List DataSeries) (output : Id)

/-- What the analyses with the given output claim, in their order. -/
def claimsFor : List (Option (Fin series.length)) :=
  ((List.finRange analyses.length).filter fun i ↦ (analyses.get i).outputId = output).map
    (claimOf analyses series)

variable {analyses series output}

theorem mem_claimsFor {claim : Option (Fin series.length)} :
    claim ∈ claimsFor analyses series output ↔
      ∃ i, (analyses.get i).outputId = output ∧ claimOf analyses series i = claim := by
  rw [claimsFor, List.mem_map]
  simp only [List.mem_filter, List.mem_finRange, true_and, decide_eq_true_iff]

variable (analyses series output)

theorem pairwise_follows_claimsFor : (claimsFor analyses series output).Pairwise Follows := by
  rw [claimsFor, List.pairwise_map]
  refine ((List.pairwise_lt_finRange _).filter _).imp_of_mem ?_
  intro i i' hi hi' hlt
  rw [List.mem_filter, decide_eq_true_iff] at hi hi'
  exact follows_claimOf hlt (hi.2.trans hi'.2.symm)

/-- **Analyses with the same output are served in their order.** Those of them that claim a series
are the first ones, and the places that they claim are increasing. If one of them finds nothing,
every series that holds the output and is not static is claimed in the end. -/
theorem claimsFor_eq_places_append_none :
    ∃ (places : List (Fin series.length)) (k : ℕ),
      claimsFor analyses series output = places.map some ++ List.replicate k none ∧
      places.Pairwise (· < ·) ∧
      (none ∈ claimsFor analyses series output → ∀ j : Fin series.length,
        (series.get j).isStatic = false → (series.get j).holds output = true →
          j ∈ claimed analyses series) := by
  obtain ⟨places, k, heq, hplaces⟩ :=
    exists_eq_places_append_none (pairwise_follows_claimsFor analyses series output)
  refine ⟨places, k, heq, hplaces, ?_⟩
  intro hnone j hdynamic hholds
  obtain ⟨i, rfl, hi⟩ := mem_claimsFor.mp hnone
  have hsuits : suits (analyses.get i) (series.get j) = true := by
    rw [suits, hdynamic, hholds]
    rfl
  rcases mem_matched_or_mem_claimed hsuits with hmatched | hclaimed
  · rw [matched, Finset.mem_filter_univ, hi] at hmatched
    contradiction
  · exact hclaimed

/-- Between the analyses with one output another one takes a series that holds it too; the last of
them finds nothing. -/
theorem claimsFor_eq_places_append_none_between :
    let analyses : List Analysis :=
      [⟨1, "a", 10⟩, ⟨2, "b", 20⟩, ⟨3, "c", 10⟩, ⟨4, "d", 10⟩]
    let series : List DataSeries :=
      [.ofIds 1 "fires" .dynamic [10], .ofIds 2 "floods" .dynamic [20, 10],
        .ofIds 3 "borders" .static [10], .ofIds 4 "roads" .dynamic [10]]
    (claimsFor analyses series 10).map (Option.map Fin.val) = [some 0, some 3, none] ∧
      none ∈ claimsFor analyses series 10 ∧
      ∀ j : Fin series.length, (series.get j).isStatic = false →
        (series.get j).holds 10 = true → j ∈ claimed analyses series := by
  intro analyses series
  have hnone : none ∈ claimsFor analyses series 10 := by decide
  obtain ⟨-, -, -, -, hgone⟩ := claimsFor_eq_places_append_none analyses series 10
  exact ⟨by decide, hnone, hgone hnone⟩

end Selection

end MonitorCore

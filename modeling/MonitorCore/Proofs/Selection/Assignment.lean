import Mathlib.Data.Fintype.Prod
import Mathlib.Data.List.Perm.Subperm
import MonitorCore.Proofs.Selection.Position

/-!
# Selections against assignments

An assignment gives analyses to series as it likes, as long as no analysis and no series is used
twice. A selection is an assignment too (`Assignment.ofSelection`), but one that is made greedily in
the order of the input, and it need not be as large as possible.

## What greed costs

How much a selection loses is bounded, because it is *maximal*: of a pair left out, the analysis or
the series takes part in the selection already (`mem_matched_or_mem_claimed`). Every pair of an
assignment can so be charged to an analysis or to a series of the selection.

An assignment does not depend on the order of the input, and so the same bound compares the
selections of one input in any two orders.
-/

namespace MonitorCore

namespace Selection

variable {analyses analyses' : List Analysis} {series series' : List DataSeries}

/-- An assignment of analyses to series that they can claim, told in positions. -/
structure Assignment (analyses : List Analysis) (series : List DataSeries) where
  /-- The analyses and the series that they are assigned to. -/
  pairs : Finset (Fin analyses.length × Fin series.length)
  /-- No analysis is used twice. -/
  injOn_fst : Set.InjOn Prod.fst (pairs : Set (Fin analyses.length × Fin series.length))
  /-- No series is used twice. -/
  injOn_snd : Set.InjOn Prod.snd (pairs : Set (Fin analyses.length × Fin series.length))
  /-- Each analysis can claim its series. -/
  suits_of_mem : ∀ p ∈ pairs, suits (analyses.get p.1) (series.get p.2) = true

namespace Assignment

def ofSelection (analyses : List Analysis) (series : List DataSeries) :
    Assignment analyses series where
  pairs := Finset.univ.filter fun p ↦ claimOf analyses series p.1 = some p.2
  injOn_fst := by
    intro p hp q hq hpq
    rw [Finset.mem_coe, Finset.mem_filter_univ] at hp hq
    rw [hpq, hq] at hp
    exact Prod.ext hpq (Option.some_inj.mp hp.symm)
  injOn_snd := by
    intro p hp q hq hpq
    rw [Finset.mem_coe, Finset.mem_filter_univ] at hp hq
    rw [hpq] at hp
    exact Prod.ext ((firstFit_claimOf analyses series).injective hp hq) hpq
  suits_of_mem := by
    intro p hp
    rw [Finset.mem_filter_univ] at hp
    exact (((firstFit_claimOf analyses series).eq_some_iff p.1 p.2).mp hp).1.1

theorem card_ofSelection (analyses : List Analysis) (series : List DataSeries) :
    (ofSelection analyses series).pairs.card = (select analyses series).length := by
  rw [← card_matched, ← Finset.card_image_of_injOn (ofSelection analyses series).injOn_fst]
  congr 1
  ext i
  rw [matched, Finset.mem_image, Finset.mem_filter_univ, Option.isSome_iff_exists]
  constructor
  · rintro ⟨p, hp, rfl⟩
    exact ⟨p.2, (Finset.mem_filter_univ p).mp hp⟩
  · rintro ⟨j, hj⟩
    exact ⟨(i, j), (Finset.mem_filter_univ _).mpr hj, rfl⟩

/-- An assignment carried over to lists in which all its analyses and series occur. -/
def map (M : Assignment analyses' series') (f : Fin analyses'.length ↪ Fin analyses.length)
    (g : Fin series'.length ↪ Fin series.length)
    (hf : ∀ i, analyses.get (f i) = analyses'.get i)
    (hg : ∀ j, series.get (g j) = series'.get j) : Assignment analyses series where
  pairs := M.pairs.map (f.prodMap g)
  injOn_fst := by
    rw [Finset.coe_map]
    rintro _ ⟨p, hp, rfl⟩ _ ⟨q, hq, rfl⟩ hpq
    rw [M.injOn_fst hp hq (f.injective hpq)]
  injOn_snd := by
    rw [Finset.coe_map]
    rintro _ ⟨p, hp, rfl⟩ _ ⟨q, hq, rfl⟩ hpq
    rw [M.injOn_snd hp hq (g.injective hpq)]
  suits_of_mem := by
    intro p hp
    obtain ⟨q, hq, rfl⟩ := Finset.mem_map.mp hp
    have hsuits := M.suits_of_mem q hq
    rw [← hf, ← hg] at hsuits
    exact hsuits

/-- Assignments are the same in every order of the input, up to the positions. -/
theorem exists_card_eq_of_perm (M : Assignment analyses' series')
    (hanalyses : analyses'.Perm analyses) (hseries : series'.Perm series) :
    ∃ N : Assignment analyses series, N.pairs.card = M.pairs.card :=
  ⟨M.map ⟨hanalyses.idxBij, hanalyses.idxBij_injective⟩
      ⟨hseries.idxBij, hseries.idxBij_injective⟩ hanalyses.getElem_idxBij_eq_getElem
      hseries.getElem_idxBij_eq_getElem,
    Finset.card_map _⟩

end Assignment

/-! ## Maximality -/

/-- **Maximality.** Of an analysis and a series that it can claim, one takes part in the selection:
an analysis goes without only if all it could claim is gone. -/
theorem mem_matched_or_mem_claimed {i : Fin analyses.length} {j : Fin series.length}
    (h : suits (analyses.get i) (series.get j) = true) :
    i ∈ matched analyses series ∨ j ∈ claimed analyses series := by
  cases hi : claimOf analyses series i with
  | some k =>
    left
    rw [matched, Finset.mem_filter_univ, hi]
    rfl
  | none =>
    right
    have hfree := ((firstFit_claimOf analyses series).eq_none_iff i).mp hi j
    rw [Free, not_and] at hfree
    have hgone := hfree h
    push Not at hgone
    obtain ⟨i', -, hi'⟩ := hgone
    exact mem_claimed.mpr ⟨i', hi'⟩

theorem Assignment.card_le (M : Assignment analyses series) :
    M.pairs.card ≤ 2 * (select analyses series).length := by
  -- each pair is charged to its analysis or to its series, and each of those to one pair only
  have hcover : M.pairs ⊆ M.pairs.filter (·.1 ∈ matched analyses series)
      ∪ M.pairs.filter (·.2 ∈ (claimed analyses series).toFinset) := by
    intro p hp
    rw [Finset.mem_union, Finset.mem_filter, Finset.mem_filter, List.mem_toFinset]
    rcases mem_matched_or_mem_claimed (M.suits_of_mem p hp) with hfst | hsnd
    · exact Or.inl ⟨hp, hfst⟩
    · exact Or.inr ⟨hp, hsnd⟩
  have hfst : (M.pairs.filter (·.1 ∈ matched analyses series)).card
      ≤ (select analyses series).length := by
    rw [← card_matched]
    exact Finset.card_le_card_of_injOn Prod.fst (fun p hp ↦ (Finset.mem_filter.mp hp).2)
      (M.injOn_fst.mono (Finset.coe_subset.mpr (Finset.filter_subset _ _)))
  have hsnd : (M.pairs.filter (·.2 ∈ (claimed analyses series).toFinset)).card
      ≤ (select analyses series).length := by
    rw [← map_claimed, List.length_map]
    refine le_trans ?_ (claimed analyses series).toFinset_card_le
    exact Finset.card_le_card_of_injOn Prod.snd (fun p hp ↦ (Finset.mem_filter.mp hp).2)
      (M.injOn_snd.mono (Finset.coe_subset.mpr (Finset.filter_subset _ _)))
  have hunion := (Finset.card_le_card hcover).trans (Finset.card_union_le _ _)
  omega

/-! ## The bound -/

/-- **A selection is at least half as large as any assignment**, and at least half as large as the
selection from the same analyses and series in any other order. -/
theorem assignment_card_le_two_mul_select (analyses : List Analysis) (series : List DataSeries) :
    (∀ M : Assignment analyses series, M.pairs.card ≤ 2 * (select analyses series).length) ∧
      ∀ (analyses' : List Analysis) (series' : List DataSeries), analyses'.Perm analyses →
        series'.Perm series →
        (select analyses' series').length ≤ 2 * (select analyses series).length := by
  refine ⟨fun M ↦ M.card_le, fun analyses' series' hanalyses hseries ↦ ?_⟩
  obtain ⟨N, hN⟩ :=
    (Assignment.ofSelection analyses' series').exists_card_eq_of_perm hanalyses hseries
  rw [← Assignment.card_ofSelection, ← hN]
  exact N.card_le

/-- The factor two is reached: one of two analyses takes the only series of the other one, unless it
comes second. -/
theorem select_length_two_of_swap :
    let series : List DataSeries :=
      [.ofIds 1 "forecast" .dynamic [10, 20], .ofIds 2 "survey" .dynamic [10]]
    (select [⟨1, "a", 10⟩, ⟨2, "b", 20⟩] series).length = 1 ∧
      (select [⟨2, "b", 20⟩, ⟨1, "a", 10⟩] series).length = 2 ∧
      (select [⟨2, "b", 20⟩, ⟨1, "a", 10⟩] series).length
        ≤ 2 * (select [⟨1, "a", 10⟩, ⟨2, "b", 20⟩] series).length :=
  ⟨by decide, by decide,
    (assignment_card_le_two_mul_select _ _).2 _ _ (List.Perm.swap _ _ _) (List.Perm.refl _)⟩

end Selection

end MonitorCore

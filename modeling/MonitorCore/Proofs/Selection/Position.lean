import Mathlib.Data.Fin.Tuple.Basic
import Mathlib.Data.Finset.Card
import Mathlib.Data.Fintype.Basic
import Mathlib.Data.List.FinRange
import Mathlib.Data.List.ReduceOption
import Mathlib.Order.Bounds.Defs
import MonitorCore.Proofs.Selection.FirstFit

/-!
# Selections told in positions

Series may be equal and identifiers may repeat, so a returned series does not say which entry of
the input it was. Here every claim is told by the position of the claimed series in the input, and
the selection is read off the claimed positions.

## The claim map

Positions never shift, whereas the pool of a selection shrinks after every claim and starts without
the static series. The two meet in `map_positions`: the run of a selection is the run of the same
loop on the positions of the input, each position replaced by its series. Since positions are
distinct, `getElem?_claims` then gives the claim map `claimOf` its own description, which refers to
the input and to the earlier claims only (`FirstFit`), and that description determines it.
-/

namespace MonitorCore

namespace Selection

/-- Whether the analysis can claim the series: it is not static and holds the analysis's output. -/
def suits (analysis : Analysis) (series : DataSeries) : Bool :=
  !series.isStatic && series.holds analysis.outputId

theorem mem_pool {series : List DataSeries} {s : DataSeries} :
    s ∈ pool series ↔ s ∈ series ∧ s.isStatic = false := by
  rw [pool, List.mem_filter, Bool.not_eq_true']

variable (analyses : List Analysis) (series : List DataSeries)

/-! ## The run on positions -/

/-- The position that each analysis claims, in the order of the analyses. -/
def positions : List (Option (Fin series.length)) :=
  claims (fun analysis j ↦ suits analysis (series.get j)) analyses (List.finRange series.length)

@[simp] theorem length_positions : (positions analyses series).length = analyses.length :=
  length_claims _ analyses _

/-- **The shrinking pool in positions.** -/
theorem map_positions :
    (positions analyses series).map (Option.map series.get) = run analyses series := by
  rw [run, pool, claims_filter, positions]
  conv_rhs => rw [← List.map_get_finRange series]
  exact (claims_map (fun _ _ ↦ rfl) analyses (List.finRange series.length)).symm

/-- The claimed positions, in the order of the analyses that claim them. -/
def claimed : List (Fin series.length) := (positions analyses series).reduceOption

theorem map_claimed : (claimed analyses series).map series.get = select analyses series := by
  rw [claimed, ← List.reduceOption_map, map_positions]
  rfl

/-! ## The claim map -/

/-- The position that the analysis at position `i` claims. -/
def claimOf (i : Fin analyses.length) : Option (Fin series.length) :=
  (positions analyses series).get (i.cast (length_positions analyses series).symm)

theorem getElem?_positions (i : Fin analyses.length) :
    (positions analyses series)[i.val]? = some (claimOf analyses series i) := by
  have hi : i.val < (positions analyses series).length := by
    rw [length_positions]
    exact i.isLt
  exact List.getElem?_eq_getElem hi

theorem getElem?_run (i : Fin analyses.length) :
    (run analyses series)[i.val]? = some ((claimOf analyses series i).map series.get) := by
  rw [← map_positions, List.getElem?_map, getElem?_positions, Option.map_some]

theorem ofFn_claimOf : List.ofFn (claimOf analyses series) = positions analyses series := by
  refine List.ext_getElem? fun i ↦ ?_
  by_cases hi : i < analyses.length
  · rw [getElem?_positions analyses series ⟨i, hi⟩, List.getElem?_ofFn, dif_pos hi]
  · rw [List.getElem?_eq_none (by simpa using hi), List.getElem?_eq_none (by simpa using hi)]

theorem select_eq_filterMap :
    select analyses series = (List.finRange analyses.length).filterMap fun i ↦
      (claimOf analyses series i).map series.get := by
  rw [select, ← map_positions, ← ofFn_claimOf, List.ofFn_eq_map, List.map_map,
    List.filterMap_map]
  rfl

/-! ## The analyses that claim -/

def matched : Finset (Fin analyses.length) :=
  Finset.univ.filter fun i ↦ (claimOf analyses series i).isSome

theorem card_matched : (matched analyses series).card = (select analyses series).length := by
  rw [select_eq_filterMap, List.length_filterMap_eq_countP, List.countP_eq_length_filter, matched,
    Finset.card_def, Finset.filter_val, Finset.val_univ_fin, Multiset.filter_coe, Multiset.coe_card]
  simp only [Option.isSome_map, Bool.decide_eq_true]

variable {analyses series}

theorem mem_matched {i : Fin analyses.length} :
    i ∈ matched analyses series ↔
      ((run analyses series).map Option.isSome)[i.val]? = some true := by
  rw [matched, Finset.mem_filter_univ, List.getElem?_map, getElem?_run, Option.map_some,
    Option.some_inj, Option.isSome_map]

theorem mem_claimed {j : Fin series.length} :
    j ∈ claimed analyses series ↔ ∃ i, claimOf analyses series i = some j := by
  rw [claimed, List.reduceOption_mem_iff, ← ofFn_claimOf, List.mem_ofFn]

/-! ## First fit -/

/-- The position `j` is free for the analysis at `i`: the analysis can claim its series, and no
earlier analysis claims it. -/
def Free (analyses : List Analysis) (series : List DataSeries)
    (c : Fin analyses.length → Option (Fin series.length)) (i : Fin analyses.length)
    (j : Fin series.length) : Prop :=
  suits (analyses.get i) (series.get j) = true ∧ ∀ i' < i, c i' ≠ some j

instance (c : Fin analyses.length → Option (Fin series.length)) (i : Fin analyses.length)
    (j : Fin series.length) : Decidable (Free analyses series c i j) :=
  inferInstanceAs (Decidable (_ ∧ _))

/-- **First fit.** Every analysis claims the least position that is free for it, and claims nothing
exactly when no position is. -/
structure FirstFit (analyses : List Analysis) (series : List DataSeries)
    (c : Fin analyses.length → Option (Fin series.length)) : Prop where
  /-- What an analysis claims is the least free position. -/
  eq_some_iff : ∀ i j, c i = some j ↔ IsLeast {j | Free analyses series c i j} j
  /-- An analysis that claims nothing has no free position. -/
  eq_none_iff : ∀ i, c i = none ↔ ∀ j, ¬Free analyses series c i j

theorem firstFit_iff {c : Fin analyses.length → Option (Fin series.length)} :
    FirstFit analyses series c ↔
      ∀ i, c i = Fin.find? fun j ↦ decide (Free analyses series c i j) := by
  constructor
  · intro h i
    symm
    cases hi : c i with
    | none =>
      exact Fin.find?_eq_none_iff.mpr fun j ↦ decide_eq_false ((h.eq_none_iff i).mp hi j)
    | some j =>
      obtain ⟨hfree, hleast⟩ := (h.eq_some_iff i j).mp hi
      exact Fin.find?_eq_some_iff.mpr ⟨decide_eq_true hfree,
        fun k hk ↦ decide_eq_false fun hk' ↦ (hleast hk').not_gt hk⟩
  · intro h
    refine ⟨fun i j ↦ ?_, fun i ↦ ?_⟩
    · rw [h i, Fin.find?_eq_some_iff, decide_eq_true_iff]
      refine and_congr_right fun _ ↦ ⟨fun hleast k hk ↦ ?_, fun hleast k hk ↦ ?_⟩
      · exact not_lt.mp fun hlt ↦ of_decide_eq_false (hleast k hlt) hk
      · exact decide_eq_false fun hk' ↦ (hleast hk').not_gt hk
    · rw [h i, Fin.find?_eq_none_iff]
      exact forall_congr' fun j ↦ decide_eq_false_iff_not

private theorem mem_take_positions {i : Fin analyses.length} {j : Fin series.length} :
    some j ∈ (positions analyses series).take i ↔
      ∃ i' < i, claimOf analyses series i' = some j := by
  rw [← ofFn_claimOf, List.mem_take_iff_getElem]
  constructor
  · rintro ⟨k, hk, hj⟩
    rw [List.length_ofFn] at hk
    rw [List.getElem_ofFn] at hj
    obtain ⟨hki, hkn⟩ : k < i.val ∧ k < analyses.length := by omega
    exact ⟨⟨k, hkn⟩, hki, hj⟩
  · rintro ⟨i', hi', hj⟩
    refine ⟨i', ?_, ?_⟩
    · rw [List.length_ofFn]
      exact lt_min hi' i'.isLt
    · rw [List.getElem_ofFn]
      exact hj

/-- **The run is first fit.** -/
theorem firstFit_claimOf (analyses : List Analysis) (series : List DataSeries) :
    FirstFit analyses series (claimOf analyses series) := by
  refine firstFit_iff.mpr fun i ↦ ?_
  have hclaim := getElem?_claims (fun analysis j ↦ suits analysis (series.get j))
    (List.nodup_finRange series.length) analyses i
  rw [← positions, getElem?_positions, List.getElem?_eq_getElem i.isLt, Option.map_some,
    Option.some_inj] at hclaim
  rw [hclaim, Fin.find?_eq_find?_finRange]
  congr 1
  funext j
  rw [Bool.eq_iff_iff, Bool.and_eq_true, decide_eq_true_iff, decide_eq_true_iff,
    mem_take_positions, Free]
  simp only [not_exists, not_and, ne_eq, List.get_eq_getElem]

theorem mem_pool_and_holds_of_mem_select {s : DataSeries} (h : s ∈ select analyses series) :
    s ∈ pool series ∧ ∃ analysis ∈ analyses, s.holds analysis.outputId = true := by
  rw [select_eq_filterMap, List.mem_filterMap] at h
  obtain ⟨i, -, hi⟩ := h
  obtain ⟨j, hj, rfl⟩ := Option.map_eq_some_iff.mp hi
  have hsuits := (((firstFit_claimOf analyses series).eq_some_iff i j).mp hj).1.1
  rw [suits, Bool.and_eq_true, Bool.not_eq_true'] at hsuits
  exact ⟨mem_pool.mpr ⟨List.get_mem series j, hsuits.1⟩, analyses.get i,
    List.get_mem analyses i, hsuits.2⟩

/-- A first-fit claim map is determined claim by claim, each by the earlier ones. -/
theorem FirstFit.unique {c c' : Fin analyses.length → Option (Fin series.length)}
    (h : FirstFit analyses series c) (h' : FirstFit analyses series c') : c = c' := by
  rw [firstFit_iff] at h h'
  funext i
  induction i using WellFoundedLT.induction with
  | ind i ih =>
    -- the earlier claims agree, so the same positions are free
    have hfree : ∀ j, Free analyses series c i j ↔ Free analyses series c' i j := by
      intro j
      have hearlier : (∀ i' < i, c i' ≠ some j) ↔ ∀ i' < i, c' i' ≠ some j :=
        forall₂_congr fun i' hi' ↦ by rw [ih i' hi']
      rw [Free, Free, hearlier]
    rw [h i, h' i]
    simp only [hfree]

theorem FirstFit.injective {c : Fin analyses.length → Option (Fin series.length)}
    (h : FirstFit analyses series c) {i i' : Fin analyses.length} {j : Fin series.length}
    (hi : c i = some j) (hi' : c i' = some j) : i = i' := by
  obtain ⟨-, hbefore⟩ := ((h.eq_some_iff i j).mp hi).1
  obtain ⟨-, hbefore'⟩ := ((h.eq_some_iff i' j).mp hi').1
  rcases lt_trichotomy i i' with hlt | heq | hgt
  · exact absurd hi (hbefore' i hlt)
  · exact heq
  · exact absurd hi' (hbefore i' hgt)

/-- **The selection by first fit.** There is exactly one first-fit claim map. It claims no position
twice, and the selection returns the series at the claimed positions, in the order of the analyses
that claim them. -/
theorem exists_unique_firstFit (analyses : List Analysis) (series : List DataSeries) :
    ∃ c : Fin analyses.length → Option (Fin series.length),
      FirstFit analyses series c ∧ (∀ c', FirstFit analyses series c' → c' = c) ∧
        (∀ i i' j, c i = some j → c i' = some j → i = i') ∧
        select analyses series = (List.finRange analyses.length).filterMap fun i ↦
          (c i).map series.get := by
  have hfit := firstFit_claimOf analyses series
  refine ⟨claimOf analyses series, hfit, fun c' hc' ↦ hc'.unique hfit, ?_, ?_⟩
  · intro i i' j hi hi'
    exact hfit.injective hi hi'
  · exact select_eq_filterMap analyses series

end Selection

end MonitorCore

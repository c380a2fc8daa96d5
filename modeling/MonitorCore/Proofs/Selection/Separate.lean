import Mathlib.Algebra.BigOperators.Group.Finset.Basic
import Mathlib.Algebra.Order.BigOperators.Group.Finset
import MonitorCore.Proofs.Selection.Assignment

/-!
# Selections from separate series

A series that holds two outputs can be claimed for either, so in general the order of the analyses
decides what is left for the later ones. Among *separate* series, none of which holds two of the
outputs asked for, nothing depends on the order, and nothing is lost by greed.

## One output at a time

The claims for one output are then not disturbed by those for the others. Wherever they stand among
the analyses, they take the series that hold it from the first one on, as many as there are claims
(`filter_claims`). What is selected is settled output by output: its number is a sum over the
outputs, and two selections that ask for every output as often return the same series.

No assignment can do better, since each output can be assigned no more often than it is asked for
and no more often than it is held (`Assignment.card_le_sum_min`).
-/

namespace MonitorCore

namespace Selection

section OneKey

variable {σ κ α : Type} [DecidableEq κ]

private theorem filter_of_find?_eq_some {p : α → Bool} {pool : List α} {a : α}
    (h : pool.find? p = some a) : pool.filter p = a :: (pool.eraseP p).filter p := by
  obtain ⟨ha, l₁, l₂, rfl, hl₁⟩ := List.find?_eq_some_iff_append.mp h
  have hbefore : ∀ b ∈ l₁, ¬p b = true := fun b hb ↦ by simpa using hl₁ b hb
  rw [List.eraseP_append_right _ hbefore, List.eraseP_cons_of_pos ha, List.filter_append,
    List.filter_append, List.filter_eq_nil_iff.mpr hbefore, List.filter_cons_of_pos ha,
    List.nil_append, List.nil_append]

private theorem filter_eraseP_of_find?_eq_some {p q : α → Bool} {pool : List α} {a : α}
    (h : pool.find? p = some a) (ha : ¬q a = true) :
    (pool.eraseP p).filter q = pool.filter q := by
  rcases find?_eraseP_cases p pool with ⟨hnone, -⟩ | ⟨b, l₁, l₂, hpool, hb, hrest⟩
  · rw [hnone] at h
    exact absurd h (by simp)
  · obtain rfl : b = a := Option.some_inj.mp (hb.symm.trans h)
    rw [hrest, hpool, List.filter_append, List.filter_append, List.filter_cons_of_neg ha]

/-- **One key at a time.** Where no entry that serves the key `x` serves another key, the claims of
the subjects with that key take the first entries that serve it, one each. -/
theorem filter_claims (serves : κ → α → Bool) (key : σ → κ) {x : κ} (subjects : List σ)
    {pool : List α}
    (h : ∀ a ∈ pool, serves x a = true → ∀ subject ∈ subjects,
      serves (key subject) a = true → key subject = x) :
    (claims (fun subject ↦ serves (key subject)) subjects pool).reduceOption.filter (serves x)
      = (pool.filter (serves x)).take ((subjects.map key).count x) := by
  induction subjects generalizing pool with
  | nil => rfl
  | cons subject subjects ih =>
    have hlater : ∀ a ∈ pool.eraseP (serves (key subject)), serves x a = true →
        ∀ later ∈ subjects, serves (key later) a = true → key later = x :=
      fun a ha hx later hlater ↦
        h a (List.mem_of_mem_eraseP ha) hx later (List.mem_cons_of_mem _ hlater)
    have hrest := ih hlater
    rw [claims, List.map_cons]
    cases hfind : pool.find? (serves (key subject)) with
    | none =>
      rw [List.reduceOption_cons_of_none, hrest,
        List.eraseP_of_forall_not (List.find?_eq_none.mp hfind)]
      by_cases hkey : key subject = x
      · rw [hkey] at hfind
        rw [List.filter_eq_nil_iff.mpr (List.find?_eq_none.mp hfind), List.take_nil, List.take_nil]
      · rw [List.count_cons_of_ne hkey]
    | some a =>
      rw [List.reduceOption_cons_of_some]
      by_cases hkey : key subject = x
      · have ha : serves x a = true := by
          rw [← hkey]
          exact List.find?_some hfind
        rw [hkey] at hfind hrest ⊢
        rw [List.filter_cons_of_pos ha, hrest, List.count_cons_self, filter_of_find?_eq_some hfind,
          List.take_succ_cons]
      · have ha : ¬serves x a = true := fun hx ↦
          hkey (h a (List.mem_of_find?_eq_some hfind) hx subject List.mem_cons_self
            (List.find?_some hfind))
        rw [List.filter_cons_of_neg ha, hrest, filter_eraseP_of_find?_eq_some hfind ha,
          List.count_cons_of_ne hkey]

end OneKey

/-! ## Separate series -/

/-- The outputs that analyses ask for, in their order. -/
def outputs (analyses : List Analysis) : List Id := analyses.map Analysis.outputId

/-- No series that can be claimed holds two different ones of the outputs asked for. -/
def Separate (analyses : List Analysis) (series : List DataSeries) : Prop :=
  ∀ s ∈ series, s.isStatic = false → ∀ x ∈ outputs analyses, ∀ y ∈ outputs analyses,
    s.holds x = true → s.holds y = true → x = y

-- Only the listed outputs are looked at: a search over all ids would be decidable, and hopeless.
instance (analyses : List Analysis) (series : List DataSeries) :
    Decidable (Separate analyses series) :=
  decidable_of_iff
    ((pool series).all (fun s ↦ (outputs analyses).all fun x ↦ (outputs analyses).all fun y ↦
      !(s.holds x && s.holds y) || x == y) = true) <| by
    simp only [Separate, List.all_eq_true, mem_pool, and_imp, Bool.or_eq_true, Bool.not_eq_true',
      ← Bool.not_eq_true, ← imp_iff_not_or, Bool.and_eq_true, beq_iff_eq]

variable {analyses analyses' : List Analysis} {series : List DataSeries}

/-- **One output at a time.** The returned series that hold an output are the first ones that hold
it, as many as ask for it. -/
theorem Separate.filter_select (h : Separate analyses series) {x : Id} (hx : x ∈ outputs analyses) :
    (select analyses series).filter (·.holds x)
      = ((pool series).filter (·.holds x)).take ((outputs analyses).count x) := by
  refine filter_claims (fun x (s : DataSeries) ↦ s.holds x) Analysis.outputId analyses ?_
  intro s hs hsx analysis hanalysis hsy
  obtain ⟨hs, hstatic⟩ := mem_pool.mp hs
  exact h s hs hstatic _ (List.mem_map_of_mem hanalysis) x hx hsy hsx

theorem Separate.countP_select (h : Separate analyses series) {x : Id}
    (hx : x ∈ outputs analyses) :
    (select analyses series).countP (·.holds x)
      = min ((outputs analyses).count x) ((pool series).countP (·.holds x)) := by
  rw [List.countP_eq_length_filter, h.filter_select hx, List.length_take,
    ← List.countP_eq_length_filter]

private theorem length_eq_sum_countP {κ α : Type} (keys : Finset κ) (has : κ → α → Bool)
    {l : List α} (h : ∀ a ∈ l, ∃ x ∈ keys, has x a = true ∧ ∀ y ∈ keys, has y a = true → y = x) :
    l.length = ∑ x ∈ keys, l.countP (has x) := by
  induction l with
  | nil => simp
  | cons a l ih =>
    obtain ⟨x, hx, hax, hunique⟩ := h a List.mem_cons_self
    have hone : ∑ y ∈ keys, (if has y a = true then 1 else 0) = 1 := by
      rw [Finset.sum_eq_single_of_mem x hx fun y hy hyx ↦ if_neg fun hay ↦ hyx (hunique y hy hay),
        if_pos hax]
    simp only [List.countP_cons]
    rw [Finset.sum_add_distrib, hone, ← ih fun b hb ↦ h b (List.mem_cons_of_mem _ hb),
      List.length_cons]

theorem Separate.length_select (h : Separate analyses series) :
    (select analyses series).length = ∑ x ∈ (outputs analyses).toFinset,
      min ((outputs analyses).count x) ((pool series).countP (·.holds x)) := by
  have hkey : ∀ s ∈ select analyses series, ∃ x ∈ (outputs analyses).toFinset,
      s.holds x = true ∧ ∀ y ∈ (outputs analyses).toFinset, s.holds y = true → y = x := by
    intro s hs
    obtain ⟨hpool, analysis, hanalysis, hsx⟩ := mem_pool_and_holds_of_mem_select hs
    obtain ⟨hseries, hstatic⟩ := mem_pool.mp hpool
    have hx : analysis.outputId ∈ outputs analyses := List.mem_map_of_mem hanalysis
    refine ⟨analysis.outputId, List.mem_toFinset.mpr hx, hsx, fun y hy hsy ↦ ?_⟩
    exact h s hseries hstatic y (List.mem_toFinset.mp hy) _ hx hsy hsx
  rw [length_eq_sum_countP (outputs analyses).toFinset (fun x s ↦ DataSeries.holds s x) hkey]
  exact Finset.sum_congr rfl fun x hx ↦ h.countP_select (List.mem_toFinset.mp hx)

/-! ## The order of the analyses -/

theorem Separate.of_perm (h : Separate analyses series) (hperm : analyses'.Perm analyses) :
    Separate analyses' series := by
  have houtputs : (outputs analyses').Perm (outputs analyses) := hperm.map _
  intro s hs hstatic x hx y hy
  exact h s hs hstatic x (houtputs.mem_iff.mp hx) y (houtputs.mem_iff.mp hy)

theorem Separate.select_perm (h : Separate analyses series) (hperm : analyses'.Perm analyses) :
    (select analyses' series).Perm (select analyses series) := by
  have houtputs : (outputs analyses').Perm (outputs analyses) := hperm.map _
  rw [List.perm_iff_count]
  intro s
  by_cases hs : ∃ analysis ∈ analyses, s.holds analysis.outputId = true
  · -- what is returned for one output that `s` holds does not depend on the order
    obtain ⟨analysis, hanalysis, hsx⟩ := hs
    have hx : analysis.outputId ∈ outputs analyses := List.mem_map_of_mem hanalysis
    have hsame : (select analyses' series).filter (·.holds analysis.outputId)
        = (select analyses series).filter (·.holds analysis.outputId) := by
      rw [(h.of_perm hperm).filter_select (houtputs.mem_iff.mpr hx), h.filter_select hx,
        houtputs.count_eq]
    have hcount : ∀ l : List DataSeries,
        (l.filter (·.holds analysis.outputId)).count s = l.count s := fun l ↦
      List.count_filter (p := fun t ↦ DataSeries.holds t analysis.outputId) hsx
    rw [← hcount, hsame, hcount]
  · have hnot : s ∉ select analyses series := fun hmem ↦
      hs (mem_pool_and_holds_of_mem_select hmem).2
    have hnot' : s ∉ select analyses' series := fun hmem ↦ by
      obtain ⟨analysis, hanalysis, hsx⟩ := (mem_pool_and_holds_of_mem_select hmem).2
      exact hs ⟨analysis, hperm.mem_iff.mp hanalysis, hsx⟩
    rw [List.count_eq_zero_of_not_mem hnot, List.count_eq_zero_of_not_mem hnot']

/-! ## Against assignments -/

private theorem card_filter_get {α : Type} (l : List α) (p : α → Bool) :
    (Finset.univ.filter fun i : Fin l.length ↦ p (l.get i) = true).card = l.countP p := by
  conv_rhs => rw [← List.map_get_finRange l]
  rw [List.countP_map, List.countP_eq_length_filter, Finset.card_def, Finset.filter_val,
    Finset.val_univ_fin, Multiset.filter_coe, Multiset.coe_card]
  simp only [Bool.decide_eq_true]
  rfl

/-- The pairs of an assignment that are made for an output. -/
def Assignment.pairsFor (M : Assignment analyses series) (x : Id) :
    Finset (Fin analyses.length × Fin series.length) :=
  M.pairs.filter fun p ↦ (analyses.get p.1).outputId = x

theorem Assignment.card_pairsFor_le (M : Assignment analyses series) (x : Id) :
    (M.pairsFor x).card
      ≤ min ((outputs analyses).count x) ((pool series).countP (·.holds x)) := by
  refine le_min ?_ ?_
  · rw [outputs, List.count, List.countP_map, ← card_filter_get]
    refine Finset.card_le_card_of_injOn Prod.fst (fun p hp ↦ ?_)
      (M.injOn_fst.mono (Finset.coe_subset.mpr (Finset.filter_subset _ _)))
    have houtput := (Finset.mem_filter.mp hp).2
    rw [Finset.mem_coe, Finset.mem_filter_univ]
    exact beq_iff_eq.mpr houtput
  · rw [pool, List.countP_filter, ← card_filter_get]
    refine Finset.card_le_card_of_injOn Prod.snd (fun p hp ↦ ?_)
      (M.injOn_snd.mono (Finset.coe_subset.mpr (Finset.filter_subset _ _)))
    obtain ⟨hp, houtput⟩ := Finset.mem_filter.mp hp
    have hsuits := M.suits_of_mem p hp
    rw [suits, houtput, Bool.and_comm] at hsuits
    rw [Finset.mem_coe, Finset.mem_filter_univ]
    exact hsuits

/-- No assignment gives an output away more often than it is asked for, or than it is held. -/
theorem Assignment.card_le_sum_min (M : Assignment analyses series) :
    M.pairs.card ≤ ∑ x ∈ (outputs analyses).toFinset,
      min ((outputs analyses).count x) ((pool series).countP (·.holds x)) := by
  have hmaps : (M.pairs : Set (Fin analyses.length × Fin series.length)).MapsTo
      (fun p ↦ (analyses.get p.1).outputId) (outputs analyses).toFinset := by
    intro p _
    exact List.mem_toFinset.mpr (List.mem_map_of_mem (List.get_mem analyses p.1))
  rw [Finset.card_eq_sum_card_fiberwise hmaps]
  exact Finset.sum_le_sum fun x _ ↦ M.card_pairsFor_le x

/-! ## The selection -/

/-- **A selection from separate series** has for each output as many series as ask for it and hold
it, which is as many as any assignment has, and it does not depend on the order of the analyses. -/
theorem select_eq_sum_min_of_separate (h : Separate analyses series) :
    ((select analyses series).length = ∑ x ∈ (outputs analyses).toFinset,
        min ((outputs analyses).count x) ((pool series).countP (·.holds x)) ∧
      ∀ M : Assignment analyses series, M.pairs.card ≤ (select analyses series).length) ∧
      ∀ analyses' : List Analysis, analyses'.Perm analyses →
        (select analyses' series).Perm (select analyses series) := by
  refine ⟨⟨h.length_select, fun M ↦ ?_⟩, fun analyses' hperm ↦ h.select_perm hperm⟩
  rw [h.length_select]
  exact M.card_le_sum_min

/-- Two series hold the first output, one of them twice, and three analyses ask for it; the second
output is held by a static series too. -/
theorem select_separate_shared_outputs :
    let analyses : List Analysis := [⟨1, "a", 10⟩, ⟨2, "b", 20⟩, ⟨3, "c", 10⟩, ⟨4, "d", 10⟩]
    let series : List DataSeries :=
      [.ofIds 1 "fires" .dynamic [10, 10, 30], .ofIds 2 "borders" .static [10, 20],
        .ofIds 3 "roads" .dynamic [20], .ofIds 4 "floods" .dynamic [10]]
    Separate analyses series ∧ (select analyses series).length = 3 ∧
      ((select analyses series).length = ∑ x ∈ (outputs analyses).toFinset,
          min ((outputs analyses).count x) ((pool series).countP (·.holds x)) ∧
        ∀ M : Assignment analyses series, M.pairs.card ≤ (select analyses series).length) ∧
      (select analyses.reverse series).Perm (select analyses series) := by
  intro analyses series
  have hseparate : Separate analyses series := by decide
  have hselect := select_eq_sum_min_of_separate hseparate
  exact ⟨hseparate, by decide, hselect.1, hselect.2 _ analyses.reverse_perm⟩

end Selection

end MonitorCore

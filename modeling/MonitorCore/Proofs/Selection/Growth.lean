import Mathlib.Data.Finset.Card
import Mathlib.Data.List.Perm.Subperm
import Mathlib.Data.Multiset.MapFold
import MonitorCore.Proofs.Selection.Position

/-!
# Selections that grow

Who claims what can change from end to end when one analysis or one series is added, since an entry
that is taken away from one subject makes it take another one, and so on. What does not change is
how far apart the two runs are.

## The invariant

The pools of two runs over the same subjects, one of which started with an entry more, differ at
every step by one entry at most: the entry moves (`Coupled.moved`) until some subject finds it
while its counterpart finds nothing, and from then on the pools are equal (`Coupled.met`). Over a
whole run either the same subjects claim and one entry is left over, or exactly one subject more
claims something (`Grown`).

An added series gives the run with the larger pool, and an added analysis that claims something
gives a run with a smaller one.
-/

open scoped List

namespace MonitorCore

namespace Selection

section Coupling

variable {σ α : Type}

/-! ## One entry more -/

/-- The larger pool is the smaller one with the entry `x` put in somewhere. -/
def OneMore (x : α) (smaller larger : List α) : Prop :=
  ∃ l₁ l₂, smaller = l₁ ++ l₂ ∧ larger = l₁ ++ x :: l₂

/-- How one claim goes on two pools, the larger of which has the entry `x` more. -/
inductive Coupled (p : α → Bool) (x : α) (smaller larger : List α) : Prop
  /-- Both claims are the same, and the pools still differ by `x`. -/
  | same (hfind : larger.find? p = smaller.find? p)
      (hrest : OneMore x (smaller.eraseP p) (larger.eraseP p))
  /-- The larger pool gives away `x` where the smaller one gives away `y`, which is then the
  difference. -/
  | moved (y : α) (hlarger : larger.find? p = some x) (hsmaller : smaller.find? p = some y)
      (hrest : OneMore y (smaller.eraseP p) (larger.eraseP p))
  /-- The larger pool gives away `x` where the smaller one has nothing to give, and the pools are
  equal afterwards. -/
  | met (hlarger : larger.find? p = some x) (hsmaller : smaller.find? p = none)
      (hrest : larger.eraseP p = smaller.eraseP p)

/-- **The step.** A claim keeps two pools within one entry of each other. -/
theorem OneMore.coupled {x : α} {smaller larger : List α} (h : OneMore x smaller larger)
    (p : α → Bool) : Coupled p x smaller larger := by
  obtain ⟨l₁, l₂, rfl, rfl⟩ := h
  cases h₁ : l₁.find? p with
  | some a =>
    -- both claims are settled in front of the extra entry
    refine .same ?_ ⟨l₁.eraseP p, l₂, ?_, ?_⟩
    · rw [List.find?_append, List.find?_append, h₁, Option.some_or, Option.some_or]
    · exact eraseP_append_of_find?_eq_some h₁ l₂
    · exact eraseP_append_of_find?_eq_some h₁ (x :: l₂)
  | none =>
    -- both claims go on to the back part, where only the larger pool offers `x`
    have hfind : ∀ l, (l₁ ++ l).find? p = l.find? p := fun l ↦ by
      rw [List.find?_append, h₁, Option.none_or]
    have herase := eraseP_append_of_find?_eq_none h₁
    by_cases hx : p x = true
    · have hlarger : (l₁ ++ x :: l₂).find? p = some x := by
        rw [hfind, List.find?_cons_of_pos hx]
      rcases find?_eraseP_cases p l₂ with ⟨hnone, hrest⟩ | ⟨y, m₁, m₂, hl₂, hy, hrest⟩
      · refine .met hlarger ?_ ?_
        · rw [hfind, hnone]
        · rw [herase, herase, List.eraseP_cons_of_pos hx, hrest]
      · refine .moved y hlarger ?_ ⟨l₁ ++ m₁, m₂, ?_, ?_⟩
        · rw [hfind, hy]
        · rw [herase, hrest, List.append_assoc]
        · rw [herase, List.eraseP_cons_of_pos hx, hl₂, List.append_assoc]
    · refine .same ?_ ⟨l₁, l₂.eraseP p, herase l₂, ?_⟩
      · rw [hfind, hfind, List.find?_cons_of_neg hx]
      · rw [herase, List.eraseP_cons_of_neg hx]

/-! ## Runs -/

/-- How the claims of two runs compare when the pool of the second one has the entry `x` more. -/
inductive Grown (x : α) (small large : List (Option α)) : Prop
  /-- The same subjects claim, and an entry `y` of the larger pool is left over. -/
  | same (y : α) (hmatch : large.map Option.isSome = small.map Option.isSome)
      (hperm : y :: large.reduceOption ~ x :: small.reduceOption)
  /-- One subject more claims, the one at position `i`, and no entry is left over. -/
  | more (i : ℕ) (hmatch : large.map Option.isSome = (small.map Option.isSome).set i true)
      (hperm : large.reduceOption ~ x :: small.reduceOption)

private theorem reduceOption_cons (claim : Option α) (l : List (Option α)) :
    (claim :: l).reduceOption = claim.toList ++ l.reduceOption := by
  cases claim with
  | none => rfl
  | some a => rfl

theorem Grown.cons {x y : α} {c d : Option α} {small large : List (Option α)}
    (h : Grown y small large) (hmatch : d.isSome = c.isSome)
    (hswap : y :: d.toList ~ x :: c.toList) : Grown x (c :: small) (d :: large) := by
  have hhead : d.toList ++ y :: small.reduceOption ~ x :: (c.toList ++ small.reduceOption) :=
    List.perm_middle.trans (hswap.append_right _)
  cases h with
  | same z hrest hperm =>
    refine .same z (by rw [List.map_cons, List.map_cons, hmatch, hrest]) ?_
    rw [reduceOption_cons, reduceOption_cons]
    calc z :: (d.toList ++ large.reduceOption)
        ~ d.toList ++ z :: large.reduceOption := List.perm_middle.symm
      _ ~ d.toList ++ y :: small.reduceOption := hperm.append_left _
      _ ~ x :: (c.toList ++ small.reduceOption) := hhead
  | more i hrest hperm =>
    refine .more (i + 1)
      (by rw [List.map_cons, List.map_cons, hmatch, hrest, List.set_cons_succ]) ?_
    rw [reduceOption_cons, reduceOption_cons]
    exact (hperm.append_left _).trans hhead

/-- **The run.** The entry by which the pools differ is handed on from claim to claim. -/
theorem grown_claims (serves : σ → α → Bool) (subjects : List σ) {x : α}
    {smaller larger : List α} (h : OneMore x smaller larger) :
    Grown x (claims serves subjects smaller) (claims serves subjects larger) := by
  induction subjects generalizing x smaller larger with
  | nil => exact .same x rfl (List.Perm.refl _)
  | cons subject subjects ih =>
    rw [claims, claims]
    cases h.coupled (serves subject) with
    | same hfind hrest =>
      rw [hfind]
      exact (ih hrest).cons rfl (List.Perm.refl _)
    | moved y hlarger hsmaller hrest =>
      rw [hlarger, hsmaller]
      exact (ih hrest).cons rfl (List.Perm.swap x y [])
    | met hlarger hsmaller hrest =>
      -- equal pools from here on, so the runs differ in this claim only
      rw [hlarger, hsmaller, hrest]
      exact .more 0 rfl (List.Perm.refl _)

theorem Grown.subperm {x : α} {small large : List (Option α)} (h : Grown x small large) :
    large.reduceOption <+~ x :: small.reduceOption := by
  cases h with
  | same y _ hperm => exact (List.sublist_cons_self y _).subperm.trans hperm.subperm
  | more i _ hperm => exact hperm.subperm

theorem Grown.length_le {x : α} {small large : List (Option α)} (h : Grown x small large) :
    small.reduceOption.length ≤ large.reduceOption.length := by
  cases h with
  | same y _ hperm =>
    have hlen := hperm.length_eq
    rw [List.length_cons, List.length_cons] at hlen
    omega
  | more i _ hperm =>
    rw [hperm.length_eq, List.length_cons]
    exact Nat.le_succ _

/-- Who claims on the larger pool: the same subjects as on the smaller one and at most one more,
the one at position `i`. A position behind the last subject stands for no one. -/
theorem Grown.exists_map_isSome {x : α} {small large : List (Option α)} (h : Grown x small large) :
    ∃ i, large.map Option.isSome = (small.map Option.isSome).set i true := by
  cases h with
  | same y hmatch _ =>
    refine ⟨(small.map Option.isSome).length, ?_⟩
    rw [hmatch, List.set_eq_of_length_le le_rfl]
  | more i hmatch _ => exact ⟨i, hmatch⟩

/-! ## A subject more -/

/-- With a subject more, wherever it is put in, every claimed entry is still claimed, and at most
one entry more is. -/
theorem claims_insert (serves : σ → α → Bool) (before after : List σ) (subject : σ)
    (pool : List α) :
    (claims serves (before ++ after) pool).reduceOption
        <+~ (claims serves (before ++ subject :: after) pool).reduceOption ∧
      (claims serves (before ++ subject :: after) pool).reduceOption.length
        ≤ (claims serves (before ++ after) pool).reduceOption.length + 1 := by
  rw [claims_append, claims_append, claims, List.reduceOption_append, List.reduceOption_append,
    List.length_append, List.length_append, List.subperm_append_left]
  generalize remaining serves before pool = rest
  rcases find?_eraseP_cases (serves subject) rest with
    ⟨hfind, hrest⟩ | ⟨x, l₁, l₂, hpool, hfind, hrest⟩
  · rw [hfind, hrest, List.reduceOption_cons_of_none]
    exact ⟨List.Subperm.refl _, Nat.le_succ _⟩
  · have hgrown := grown_claims serves after (⟨l₁, l₂, hrest, hpool⟩ : OneMore x _ rest)
    rw [hfind, List.reduceOption_cons_of_some, List.length_cons]
    refine ⟨hgrown.subperm, ?_⟩
    have hlen := hgrown.length_le
    omega

end Coupling

/-! ## An analysis more -/

/-- **An analysis more never makes a series disappear.** Wherever it is put in, all positions that
were claimed before are claimed still, if not by the same analyses, and at most one series more is
returned. -/
theorem claimed_le_insert (before after : List Analysis) (extra : Analysis)
    (series : List DataSeries) :
    (claimed (before ++ after) series : Multiset (Fin series.length))
        ≤ claimed (before ++ [extra] ++ after) series ∧
      (select (before ++ after) series : Multiset DataSeries)
        ≤ select (before ++ [extra] ++ after) series ∧
      (select (before ++ [extra] ++ after) series).length
        ≤ (select (before ++ after) series).length + 1 := by
  rw [List.append_assoc, List.singleton_append]
  obtain ⟨hsub, hlen⟩ := claims_insert
    (fun analysis (j : Fin series.length) ↦ suits analysis (series.get j)) before after extra
    (List.finRange series.length)
  rw [← map_claimed, ← map_claimed, List.length_map, List.length_map, ← Multiset.map_coe,
    ← Multiset.map_coe]
  exact ⟨hsub, Multiset.map_le_map hsub, hlen⟩

/-! ## A series more -/

/-- With a series more, the analyses that claim stay, and at most one joins them. -/
private theorem run_insert (analyses : List Analysis) (before after : List DataSeries)
    (extra : DataSeries) :
    ∃ i, (run analyses (before ++ [extra] ++ after)).map Option.isSome
      = ((run analyses (before ++ after)).map Option.isSome).set i true := by
  cases hstatic : extra.isStatic with
  | true =>
    have hpool : pool (before ++ [extra] ++ after) = pool (before ++ after) := by
      simp [pool, hstatic]
    refine ⟨((run analyses (before ++ after)).map Option.isSome).length, ?_⟩
    rw [List.set_eq_of_length_le le_rfl, run, run, hpool]
  | false =>
    have hmore : OneMore extra (pool (before ++ after)) (pool (before ++ [extra] ++ after)) :=
      ⟨pool before, pool after, by simp [pool], by simp [pool, hstatic]⟩
    exact (grown_claims _ analyses hmore).exists_map_isSome

/-- **A series more never leaves an analysis unmatched.** Wherever it is put in, the analyses that
claimed something still do, if not the same series, at most one analysis more does, and the
selection grows by as much. -/
theorem matched_subset_insert (analyses : List Analysis) (before after : List DataSeries)
    (extra : DataSeries) :
    matched analyses (before ++ after) ⊆ matched analyses (before ++ [extra] ++ after) ∧
      (matched analyses (before ++ [extra] ++ after) \ matched analyses (before ++ after)).card
        ≤ 1 ∧
      ((select analyses (before ++ [extra] ++ after)).length
          = (select analyses (before ++ after)).length ∨
        (select analyses (before ++ [extra] ++ after)).length
          = (select analyses (before ++ after)).length + 1) := by
  obtain ⟨i, hrun⟩ := run_insert analyses before after extra
  have hsub : matched analyses (before ++ after)
      ⊆ matched analyses (before ++ [extra] ++ after) := by
    intro k hk
    rw [mem_matched] at hk ⊢
    rw [hrun, List.getElem?_set]
    by_cases hik : i = k.val
    · rw [if_pos hik, if_pos (hik ▸ (List.getElem?_eq_some_iff.mp hk).1)]
    · rw [if_neg hik]
      exact hk
  have hnew : ∀ k ∈ matched analyses (before ++ [extra] ++ after)
      \ matched analyses (before ++ after), i = k.val := by
    intro k hk
    obtain ⟨hlarge, hsmall⟩ := Finset.mem_sdiff.mp hk
    by_contra hik
    rw [mem_matched, hrun, List.getElem?_set, if_neg hik] at hlarge
    exact hsmall (mem_matched.mpr hlarge)
  have hcard : (matched analyses (before ++ [extra] ++ after)
      \ matched analyses (before ++ after)).card ≤ 1 :=
    Finset.card_le_one.mpr fun k hk k' hk' ↦ Fin.ext ((hnew k hk).symm.trans (hnew k' hk'))
  refine ⟨hsub, hcard, ?_⟩
  have hsum := Finset.card_sdiff_add_card_eq_card hsub
  rw [card_matched, card_matched] at hsum
  omega

end Selection

end MonitorCore

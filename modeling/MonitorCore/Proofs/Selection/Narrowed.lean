import Mathlib.Data.List.Forall2
import MonitorCore.Proofs.Selection.Position

/-!
# Selections from part of a pool

The same analyses select from two pools, one of which is part of the other: what a selection
returned, a pool from which series were deleted, or a pool before others were put behind it. An
entry of the smaller pool stands somewhere else in the larger one, and so the two claim maps are
compared through the places that the entries have in the larger pool (`map_positions_of_get`).
There both runs are runs of the claim loop on positions of one list of series, and what remains to
be shown is a law of that loop.

## Three laws of the claim loop

* On the list of what was claimed, every claim is made again: each subject finds its own claim in
  front, since all earlier claims are gone (`claims_reduceOption`).
* An entry that nobody claims may be missing from the start (`claims_filter_of_claimed`).
* Entries put behind the pool stay behind what is left of it, and so they are found only by those
  who find nothing else (`gains_claims`).
-/

open scoped List

namespace MonitorCore

namespace Selection

section Claims

variable {σ α : Type} (serves : σ → α → Bool)

theorem mem_of_mem_claims {subjects : List σ} {pool : List α} {a : α}
    (h : some a ∈ claims serves subjects pool) : a ∈ pool := by
  induction subjects generalizing pool with
  | nil => exact absurd h List.not_mem_nil
  | cons subject subjects ih =>
    rcases List.mem_cons.mp h with hfirst | hlater
    · exact List.mem_of_find?_eq_some hfirst.symm
    · exact List.mem_of_mem_eraseP (ih hlater)

/-! ## What was claimed -/

/-- From what they claimed, the subjects claim the same again. -/
theorem claims_reduceOption (subjects : List σ) (pool : List α) :
    claims serves subjects (claims serves subjects pool).reduceOption
      = claims serves subjects pool := by
  induction subjects generalizing pool with
  | nil => rfl
  | cons subject subjects ih =>
    rcases find?_eraseP_cases (serves subject) pool with
      ⟨hfind, hrest⟩ | ⟨a, -, -, -, hfind, -⟩
    · -- nothing in the pool serves the subject, so nothing that is claimed from it does
      have hrun : claims serves (subject :: subjects) pool
          = none :: claims serves subjects pool := by rw [claims, hfind, hrest]
      have hclaimed : ∀ b ∈ (claims serves subjects pool).reduceOption,
          ¬serves subject b = true := by
        intro b hb
        exact List.find?_eq_none.mp hfind b
          (mem_of_mem_claims serves (List.reduceOption_mem_iff.mp hb))
      rw [hrun, List.reduceOption_cons_of_none, claims, List.find?_eq_none.mpr hclaimed,
        List.eraseP_of_forall_not hclaimed, ih]
    · have hrun : claims serves (subject :: subjects) pool
          = some a :: claims serves subjects (pool.eraseP (serves subject)) := by
        rw [claims, hfind]
      have ha : serves subject a = true := List.find?_some hfind
      rw [hrun, List.reduceOption_cons_of_some, claims, List.find?_cons_of_pos ha,
        List.eraseP_cons_of_pos ha, ih]

/-! ## Entries that nobody claims -/

/-- **The step.** A test that the claimed entry passes changes neither the claim nor the pool that
it leaves. -/
theorem find?_eraseP_and {p q : α → Bool} {pool : List α}
    (h : ∀ a, pool.find? q = some a → p a = true) :
    pool.find? (fun a ↦ p a && q a) = pool.find? q ∧
      pool.eraseP (fun a ↦ p a && q a) = pool.eraseP q := by
  induction pool with
  | nil => exact ⟨rfl, rfl⟩
  | cons b pool ih =>
    by_cases hb : q b = true
    · have hp : p b = true := h b (List.find?_cons_of_pos hb)
      simp [hb, hp]
    · rw [List.find?_cons_of_neg hb] at h
      obtain ⟨hfind, hrest⟩ := ih h
      simp [hb, hfind, hrest]

/-- **The run.** Entries that nobody claims can be left out of the pool. -/
theorem claims_filter_of_claimed {p : α → Bool} {subjects : List σ} {pool : List α}
    (h : ∀ a, some a ∈ claims serves subjects pool → p a = true) :
    claims serves subjects (pool.filter p) = claims serves subjects pool := by
  rw [claims_filter]
  induction subjects generalizing pool with
  | nil => rfl
  | cons subject subjects ih =>
    rw [claims] at h
    have hfirst : ∀ a, pool.find? (serves subject) = some a → p a = true := by
      intro a ha
      exact h a (ha ▸ List.mem_cons_self)
    obtain ⟨hfind, hrest⟩ := find?_eraseP_and hfirst
    rw [claims, claims, hfind, hrest, ih fun a ha ↦ h a (List.mem_cons_of_mem _ ha)]

/-! ## Entries behind the pool -/

/-- How a claim can change when the entries `more` are put behind the pool. -/
inductive Gains (more : List α) : Option α → Option α → Prop
  /-- What was claimed is claimed still. -/
  | same (a : α) : Gains more (some a) (some a)
  /-- Where nothing was found, one of the further entries is. -/
  | found {b : α} (hb : b ∈ more) : Gains more none (some b)
  /-- Nothing is found among the further entries either. -/
  | nothing : Gains more none none

theorem Gains.mono {more more' : List α} (h : more ⊆ more') {c d : Option α}
    (hclaim : Gains more c d) : Gains more' c d := by
  cases hclaim with
  | same a => exact .same a
  | found hb => exact .found (h hb)
  | nothing => exact .nothing

theorem Gains.eq_some {more : List α} {a : α} {d : Option α} (h : Gains more (some a) d) :
    d = some a := by
  cases h with
  | same => rfl

theorem Gains.mem_of_none {more : List α} {b : α} (h : Gains more none (some b)) : b ∈ more := by
  cases h with
  | found hb => exact hb

/-- **The step.** A claim leaves the smaller pool in front, and behind it what is left of the
further entries. -/
theorem gains_find? (p : α → Bool) (pool more : List α) :
    Gains more (pool.find? p) ((pool ++ more).find? p) ∧
      ∃ left, left ⊆ more ∧ (pool ++ more).eraseP p = pool.eraseP p ++ left := by
  rcases hfind : pool.find? p with _ | a
  · refine ⟨?_, more.eraseP p, List.eraseP_subset, ?_⟩
    · rw [List.find?_append, hfind, Option.none_or]
      rcases hmore : more.find? p with _ | b
      · exact .nothing
      · exact .found (List.mem_of_find?_eq_some hmore)
    · rw [eraseP_append_of_find?_eq_none hfind,
        List.eraseP_of_forall_not (List.find?_eq_none.mp hfind)]
  · refine ⟨?_, more, List.Subset.refl more, eraseP_append_of_find?_eq_some hfind more⟩
    rw [List.find?_append, hfind, Option.some_or]
    exact .same a

/-- **The run.** With entries put behind the pool, the subjects that claim something claim it
still, and the others claim nothing but further entries. -/
theorem gains_claims (subjects : List σ) (pool more : List α) :
    List.Forall₂ (Gains more) (claims serves subjects pool)
      (claims serves subjects (pool ++ more)) := by
  induction subjects generalizing pool more with
  | nil => exact .nil
  | cons subject subjects ih =>
    obtain ⟨hclaim, left, hleft, hrest⟩ := gains_find? (serves subject) pool more
    rw [claims, claims, hrest]
    exact .cons hclaim ((ih _ left).imp fun _ _ h ↦ h.mono hleft)

theorem reduceOption_sublist_of_gains {more : List α} {l l' : List (Option α)}
    (h : List.Forall₂ (Gains more) l l') : l.reduceOption <+ l'.reduceOption := by
  induction h with
  | nil => exact List.Sublist.refl _
  | cons hclaim _ ih =>
    cases hclaim with
    | same a => exact ih.cons_cons a
    | found _ => exact ih.cons _
    | nothing => exact ih

end Claims

/-! ## A pool inside another -/

section Inside

variable {small large : List DataSeries}

/-- The place in the larger pool of an entry of the smaller one, which is made of the entries at the
positions `js`. -/
def standsAt {js : List (Fin large.length)} (h : js.map large.get = small)
    (k : Fin small.length) : Fin large.length :=
  js.get (k.cast (by rw [← h, List.length_map]))

theorem get_standsAt {js : List (Fin large.length)} (h : js.map large.get = small)
    (k : Fin small.length) : large.get (standsAt h k) = small.get k := by
  subst h
  simp [standsAt]

theorem map_standsAt {js : List (Fin large.length)} (h : js.map large.get = small) :
    (List.finRange small.length).map (standsAt h) = js := by
  subst h
  refine List.ext_getElem (by simp) fun n _ _ ↦ ?_
  simp [standsAt]

/-- **A pool inside another.** If `f` tells where each entry of the smaller pool stands in the
larger one, the run on the smaller pool is, by the places in the larger one, the claim loop on
those places. -/
theorem map_positions_of_get (analyses : List Analysis) {f : Fin small.length → Fin large.length}
    (hf : ∀ k, large.get (f k) = small.get k) :
    (positions analyses small).map (Option.map f)
      = claims (fun analysis j ↦ suits analysis (large.get j)) analyses
          ((List.finRange small.length).map f) := by
  rw [positions]
  exact (claims_map (fun analysis k ↦ by rw [hf]) analyses (List.finRange small.length)).symm

/-- Two selections make the same claims, by the places that `f` tells. -/
structure SameClaims (analyses : List Analysis) (small large : List DataSeries)
    (f : Fin small.length → Fin large.length) : Prop where
  /-- The same series are returned, in the same order. -/
  select_eq : select analyses small = select analyses large
  /-- Every analysis claims the same entry. -/
  claimOf_eq : ∀ i, (claimOf analyses small i).map f = claimOf analyses large i

theorem SameClaims.of_positions {analyses : List Analysis}
    {f : Fin small.length → Fin large.length} (hf : ∀ k, large.get (f k) = small.get k)
    (h : (positions analyses small).map (Option.map f) = positions analyses large) :
    SameClaims analyses small large f := by
  have hclaim : ∀ i, (claimOf analyses small i).map f = claimOf analyses large i := by
    intro i
    have hi : ((positions analyses small).map (Option.map f))[i.val]?
        = (positions analyses large)[i.val]? := by rw [h]
    rw [List.getElem?_map, getElem?_positions, getElem?_positions, Option.map_some] at hi
    exact Option.some_inj.mp hi
  refine ⟨?_, hclaim⟩
  rw [select_eq_filterMap, select_eq_filterMap]
  refine List.filterMap_congr fun i _ ↦ ?_
  rw [← hclaim i, Option.map_map]
  congr 1
  funext k
  exact (hf k).symm

end Inside

variable (analyses : List Analysis) (series : List DataSeries)

/-! ## Selecting again -/

/-- **Selecting again changes nothing.** From what they selected, the analyses select the same
series in the same order, and each series is claimed by the analysis that claimed it before. -/
theorem sameClaims_select :
    SameClaims analyses (select analyses series) series
      (standsAt (map_claimed analyses series)) := by
  refine .of_positions (get_standsAt _) ?_
  rw [map_positions_of_get analyses (get_standsAt _), map_standsAt]
  exact claims_reduceOption _ analyses (List.finRange series.length)

/-- The second time the series come in the order of the claims, and the first of them holds the
output of the last analysis too. -/
example :
    let analyses : List Analysis := [⟨1, "a", 20⟩, ⟨2, "b", 30⟩, ⟨3, "c", 10⟩]
    let series : List DataSeries :=
      [.ofIds 1 "fires" .dynamic [10], .ofIds 2 "floods" .dynamic [10, 20]]
    (select analyses series).map (·.id) = [2, 1] ∧
      select analyses (select analyses series) = select analyses series := by
  decide

/-! ## Deleting series -/

variable {series}

/-- The positions that stay when those in `gone` are deleted. -/
def staying (gone : Finset (Fin series.length)) : List (Fin series.length) :=
  (List.finRange series.length).filter fun j ↦ decide (j ∉ gone)

/-- The series without the entries at the positions in `gone`. -/
def deleteAt (gone : Finset (Fin series.length)) : List DataSeries :=
  (staying gone).map series.get

theorem map_staying (gone : Finset (Fin series.length)) :
    (staying gone).map series.get = deleteAt gone := rfl

/-- **Unclaimed series have no influence.** If any of the series that no analysis claims are
deleted, the analyses select the same series in the same order, and each of them claims the same
entry. -/
theorem sameClaims_deleteAt {gone : Finset (Fin series.length)}
    (h : ∀ j ∈ gone, ∀ i, claimOf analyses series i ≠ some j) :
    SameClaims analyses (deleteAt gone) series (standsAt (map_staying gone)) := by
  have hstay : ∀ j, some j ∈ positions analyses series → decide (j ∉ gone) = true := by
    intro j hj
    rw [← ofFn_claimOf, List.mem_ofFn] at hj
    obtain ⟨i, hi⟩ := hj
    exact decide_eq_true fun hgone ↦ h j hgone i hi
  refine .of_positions (get_standsAt _) ?_
  rw [map_positions_of_get analyses (get_standsAt _), map_standsAt]
  exact claims_filter_of_claimed _ hstay

/-- A static series, one that lost out and one that nobody asked for are deleted, before, between
and behind those that are claimed. -/
theorem sameClaims_deleteAt_three :
    let analyses : List Analysis := [⟨1, "a", 20⟩, ⟨2, "b", 10⟩, ⟨3, "c", 40⟩]
    let series : List DataSeries :=
      [.ofIds 1 "borders" .static [20], .ofIds 2 "fires" .dynamic [20, 10],
        .ofIds 3 "roads" .dynamic [20], .ofIds 4 "floods" .dynamic [10],
        .ofIds 5 "lakes" .dynamic [30]]
    let gone : Finset (Fin series.length) := {⟨0, by decide⟩, ⟨2, by decide⟩, ⟨4, by decide⟩}
    (∀ j ∈ gone, ∀ i, claimOf analyses series i ≠ some j) ∧
      (deleteAt gone).map (·.id) = [2, 4] ∧ (select analyses series).map (·.id) = [2, 4] ∧
      SameClaims analyses (deleteAt gone) series (standsAt (map_staying gone)) := by
  intro analyses series gone
  have hgone : ∀ j ∈ gone, ∀ i, claimOf analyses series i ≠ some j := by decide
  exact ⟨hgone, by decide, by decide, sameClaims_deleteAt analyses hgone⟩

/-! ## Series put behind -/

variable (series) (more : List DataSeries)

/-- The place of an entry when `more` is put behind the pool, which is the same place. -/
def inFront (j : Fin series.length) : Fin (series ++ more).length :=
  j.castLE (List.sublist_append_left series more).length_le

/-- The places of the entries that are put behind. -/
def behind : List (Fin (series ++ more).length) :=
  (List.finRange (series ++ more).length).drop series.length

theorem get_inFront (j : Fin series.length) :
    (series ++ more).get (inFront series more j) = series.get j :=
  List.getElem_append_left j.isLt

theorem length_le_of_mem_behind {k : Fin (series ++ more).length} (h : k ∈ behind series more) :
    series.length ≤ k.val := by
  rw [behind, List.mem_iff_getElem] at h
  obtain ⟨n, hn, rfl⟩ := h
  rw [List.getElem_drop, List.getElem_finRange]
  exact Nat.le_add_right series.length n

theorem finRange_append :
    List.finRange (series ++ more).length
      = (List.finRange series.length).map (inFront series more) ++ behind series more := by
  conv_lhs => rw [← List.take_append_drop series.length (List.finRange (series ++ more).length)]
  refine congrArg (· ++ behind series more) (List.ext_getElem (by simp) fun n _ _ ↦ ?_)
  simp [inFront]

theorem gains_claimOf (i : Fin analyses.length) :
    Gains (behind series more) ((claimOf analyses series i).map (inFront series more))
      (claimOf analyses (series ++ more) i) := by
  have hrun := gains_claims (fun analysis j ↦ suits analysis ((series ++ more).get j)) analyses
    ((List.finRange series.length).map (inFront series more)) (behind series more)
  rw [← map_positions_of_get analyses (get_inFront series more), ← finRange_append,
    ← positions] at hrun
  have hi : i.val
      < ((positions analyses series).map (Option.map (inFront series more))).length := by
    rw [List.length_map, length_positions]
    exact i.isLt
  have hi' : i.val < (positions analyses (series ++ more)).length := by
    rw [length_positions]
    exact i.isLt
  have hclaim := hrun.get hi hi'
  rw [List.get_eq_getElem, List.getElem_map] at hclaim
  exact hclaim

theorem select_sublist_append : select analyses series <+ select analyses (series ++ more) := by
  have hpool : pool (series ++ more) = pool series ++ pool more := List.filter_append ..
  rw [select, select, run, run, hpool]
  exact reduceOption_sublist_of_gains (gains_claims _ analyses (pool series) (pool more))

/-- **Series put behind the others.** Whoever claims a series claims the same one when more series
are put behind, the others can claim only those, and what was returned is returned in the same
order, with further series in between. -/
theorem claims_stay_of_append :
    (∀ i j, claimOf analyses series i = some j →
        claimOf analyses (series ++ more) i = some (inFront series more j)) ∧
      (∀ i k, claimOf analyses series i = none → claimOf analyses (series ++ more) i = some k →
        series.length ≤ k.val) ∧
      select analyses series <+ select analyses (series ++ more) := by
  refine ⟨fun i j hj ↦ ?_, fun i k hnone hk ↦ ?_, select_sublist_append analyses series more⟩
  · have hgains := gains_claimOf analyses series more i
    rw [hj, Option.map_some] at hgains
    exact hgains.eq_some
  · have hgains := gains_claimOf analyses series more i
    rw [hnone, hk, Option.map_none] at hgains
    exact length_le_of_mem_behind series more hgains.mem_of_none

/-- The analysis in the middle finds its series only among those put behind, and so a further
series is returned between the others. -/
theorem claims_stay_of_append_between :
    let analyses : List Analysis := [⟨1, "a", 10⟩, ⟨2, "b", 20⟩, ⟨3, "c", 30⟩]
    let series : List DataSeries :=
      [.ofIds 1 "fires" .dynamic [10], .ofIds 2 "lakes" .dynamic [30]]
    let more : List DataSeries :=
      [.ofIds 3 "roads" .dynamic [10], .ofIds 4 "floods" .dynamic [20, 30]]
    let first : Fin analyses.length := ⟨0, by decide⟩
    let second : Fin analyses.length := ⟨1, by decide⟩
    let found : Fin (series ++ more).length := ⟨3, by decide⟩
    claimOf analyses series first = some ⟨0, by decide⟩ ∧
      claimOf analyses (series ++ more) first = some (inFront series more ⟨0, by decide⟩) ∧
      claimOf analyses series second = none ∧
      claimOf analyses (series ++ more) second = some found ∧ series.length ≤ found.val ∧
      select analyses series <+ select analyses (series ++ more) ∧
      (select analyses (series ++ more)).map (·.id) = [1, 4, 2] := by
  intro analyses series more first second found
  obtain ⟨hstay, hfurther, hsublist⟩ := claims_stay_of_append analyses series more
  have hfirst : claimOf analyses series first = some ⟨0, by decide⟩ := by decide
  have hsecond : claimOf analyses series second = none := by decide
  have hfound : claimOf analyses (series ++ more) second = some found := by decide
  exact ⟨hfirst, hstay first _ hfirst, hsecond, hfound, hfurther second found hsecond hfound,
    hsublist, by decide⟩

end Selection

end MonitorCore

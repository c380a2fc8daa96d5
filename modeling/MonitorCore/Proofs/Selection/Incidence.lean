import MonitorCore.Proofs.Selection.Position

/-!
# What a selection depends on

A selection is determined by its *incidence*: which analysis can claim which series, both told by
their places. Two inputs with the same incidence may differ in everything else, and still the same
places are claimed (`SameIncidence.samePlaces`). A static series in one input may even stand where
the other one has a series that nobody asks for, so the pools that the two selections work on can
have different lengths.

Positions are what makes the two runs comparable. Once analyses are told by their places too
(`positions_eq_claims`), both runs are one claim loop, over the same numbers and with the same
relation between them.

## Disguises

Identifiers and names are not part of the incidence, nor are the order and the number of the data
sets within a series. Data sets may be renamed as well, if different ones keep different names.
`Disguise` says all this at once, and a disguised input has the incidence of the input.
-/

namespace MonitorCore

namespace Selection

/-! ## Telling analyses by their places -/

theorem claims_map_subjects {σ τ α : Type} (serves : σ → α → Bool) (f : τ → σ)
    (subjects : List τ) (pool : List α) :
    claims serves (subjects.map f) pool
      = claims (fun subject entry ↦ serves (f subject) entry) subjects pool := by
  induction subjects generalizing pool with
  | nil => rfl
  | cons subject subjects ih => rw [List.map_cons, claims, claims, ih]

/-- The run in which the analyses too are told by their places. -/
theorem positions_eq_claims (analyses : List Analysis) (series : List DataSeries) :
    positions analyses series
      = claims (fun i j ↦ suits (analyses.get i) (series.get j)) (List.finRange analyses.length)
          (List.finRange series.length) := by
  rw [positions]
  conv_lhs => rw [← List.map_get_finRange analyses]
  exact claims_map_subjects _ _ _ _

private theorem map_cast_finRange {n m : ℕ} (h : n = m) :
    (List.finRange n).map (Fin.cast h) = List.finRange m := by
  subst h
  exact List.map_id _

/-! ## The same incidence -/

/-- At the same places of two inputs, either both analyses can claim their series or neither can. -/
structure SameIncidence (analyses : List Analysis) (series : List DataSeries)
    (analyses' : List Analysis) (series' : List DataSeries) : Prop where
  length_analyses : analyses.length = analyses'.length
  length_series : series.length = series'.length
  suits_eq : ∀ i j,
    suits (analyses'.get (i.cast length_analyses)) (series'.get (j.cast length_series))
      = suits (analyses.get i) (series.get j)

/-- Two selections claim the same places of their inputs. -/
structure SamePlaces (analyses : List Analysis) (series : List DataSeries)
    (analyses' : List Analysis) (series' : List DataSeries) : Prop where
  length_analyses : analyses.length = analyses'.length
  length_series : series.length = series'.length
  /-- Analyses at the same place claim series at the same place, or both claim none. -/
  claimOf_eq : ∀ i, claimOf analyses' series' (i.cast length_analyses)
    = (claimOf analyses series i).map (Fin.cast length_series)
  /-- What is returned is read off the same places, in the same order. -/
  select_eq : ∃ places : List (Fin series.length),
    select analyses series = places.map series.get ∧
      select analyses' series' = places.map fun j ↦ series'.get (j.cast length_series)

section Incidence

variable {analyses analyses' : List Analysis} {series series' : List DataSeries}

theorem SameIncidence.positions_eq (h : SameIncidence analyses series analyses' series') :
    positions analyses' series'
      = (positions analyses series).map (Option.map (Fin.cast h.length_series)) := by
  rw [positions_eq_claims, positions_eq_claims, ← map_cast_finRange h.length_analyses,
    ← map_cast_finRange h.length_series, claims_map_subjects]
  exact claims_map (f := Fin.cast h.length_series) h.suits_eq _ _

theorem SameIncidence.claimed_eq (h : SameIncidence analyses series analyses' series') :
    claimed analyses' series' = (claimed analyses series).map (Fin.cast h.length_series) := by
  rw [claimed, claimed, h.positions_eq, List.reduceOption_map]

/-- **Inputs with the same incidence.** -/
theorem SameIncidence.samePlaces (h : SameIncidence analyses series analyses' series') :
    SamePlaces analyses series analyses' series' where
  length_analyses := h.length_analyses
  length_series := h.length_series
  claimOf_eq := by
    intro i
    have hi : (positions analyses' series')[i.val]?
        = ((positions analyses series)[i.val]?).map (Option.map (Fin.cast h.length_series)) := by
      rw [h.positions_eq, List.getElem?_map]
    rw [getElem?_positions, Option.map_some] at hi
    rw [← Option.some_inj, ← hi]
    exact (getElem?_positions analyses' series' (i.cast h.length_analyses)).symm
  select_eq := by
    refine ⟨claimed analyses series, (map_claimed analyses series).symm, ?_⟩
    rw [← map_claimed, h.claimed_eq, List.map_map]
    rfl

/-! ## Disguised inputs -/

/-- The other series is static exactly if this one is, and it holds the renamed data sets of this
one, in any order and each any number of times. -/
structure SeriesDisguise (rename : Id → Id) (series series' : DataSeries) : Prop where
  isStatic_eq : series'.isStatic = series.isStatic
  mem_ids_iff : ∀ id, id ∈ series'.dataSets.map DataSet.id ↔
    id ∈ series.dataSets.map fun dataSet ↦ rename dataSet.id

/-- The other analyses have the renamed outputs of these, and the other series disguise these. The
identifiers and names of analyses and series may be any. -/
structure Disguise (rename : Id → Id) (analyses : List Analysis) (series : List DataSeries)
    (analyses' : List Analysis) (series' : List DataSeries) : Prop where
  analyses_alike : List.Forall₂
    (fun analysis analysis' ↦ analysis'.outputId = rename analysis.outputId) analyses analyses'
  series_alike : List.Forall₂ (SeriesDisguise rename) series series'

theorem holds_iff {s : DataSeries} {id : Id} :
    s.holds id = true ↔ id ∈ s.dataSets.map DataSet.id := by
  rw [DataSeries.holds, List.any_eq_true, List.mem_map]
  simp only [beq_iff_eq]

theorem SeriesDisguise.holds_eq {rename : Id → Id} (hrename : Function.Injective rename)
    {s s' : DataSeries} (h : SeriesDisguise rename s s') (id : Id) :
    s'.holds (rename id) = s.holds id := by
  rw [Bool.eq_iff_iff, holds_iff, holds_iff, h.mem_ids_iff, List.mem_map, List.mem_map]
  constructor
  · rintro ⟨dataSet, hmem, heq⟩
    exact ⟨dataSet, hmem, hrename heq⟩
  · rintro ⟨dataSet, hmem, rfl⟩
    exact ⟨dataSet, hmem, rfl⟩

/-- **A disguise keeps the incidence.** -/
theorem Disguise.sameIncidence {rename : Id → Id} (hrename : Function.Injective rename)
    (h : Disguise rename analyses series analyses' series') :
    SameIncidence analyses series analyses' series' := by
  refine ⟨h.analyses_alike.length_eq, h.series_alike.length_eq, fun i j ↦ ?_⟩
  have houtput := h.analyses_alike.get i.isLt (i.cast h.analyses_alike.length_eq).isLt
  have hseries := h.series_alike.get j.isLt (j.cast h.series_alike.length_eq).isLt
  rw [suits, suits, ← hseries.holds_eq hrename, ← houtput, ← hseries.isStatic_eq]
  rfl

end Incidence

/-! ## Only the incidence counts -/

/-- **Only the incidence counts.** If the analyses and series at the same places of two inputs go
together alike, the selections claim the same places, and return what stands there in the same
order. This is so whenever one input is the other one in disguise: identifiers and names, the order
of the data sets in a series, their repetition and their renaming have no influence. -/
theorem samePlaces_of_incidence (analyses analyses' : List Analysis)
    (series series' : List DataSeries) :
    (SameIncidence analyses series analyses' series' →
        SamePlaces analyses series analyses' series') ∧
      ∀ rename : Id → Id, Function.Injective rename →
        Disguise rename analyses series analyses' series' →
          SamePlaces analyses series analyses' series' := by
  constructor
  · intro h
    exact h.samePlaces
  · intro rename hrename h
    exact (h.sameIncidence hrename).samePlaces

/-- A static series stands where the other input has one that nobody asks for. In a third input
everything is renamed, and the data sets of the second series are turned round and repeated. -/
theorem samePlaces_of_incidence_three :
    let analyses : List Analysis := [⟨1, "a", 10⟩, ⟨2, "b", 20⟩, ⟨3, "c", 10⟩]
    let series : List DataSeries :=
      [.ofIds 1 "borders" .static [10], .ofIds 2 "fires" .dynamic [20, 10],
        .ofIds 3 "floods" .dynamic [10]]
    let unasked : List DataSeries := .ofIds 1 "roads" .dynamic [30] :: series.tail
    let analyses' : List Analysis := [⟨7, "", 11⟩, ⟨7, "", 21⟩, ⟨7, "", 11⟩]
    let series' : List DataSeries :=
      [.ofIds 0 "x" .static [11], .ofIds 0 "x" .dynamic [11, 21, 11],
        .ofIds 0 "x" .dynamic [11]]
    SameIncidence analyses series analyses unasked ∧
      SamePlaces analyses series analyses unasked ∧
      Function.Injective (· + 1 : Id → Id) ∧
      Disguise (· + 1) analyses series analyses' series' ∧
      SamePlaces analyses series analyses' series' ∧
      (claimed analyses series).map (·.val) = [1, 2] ∧
      (claimed analyses unasked).map (·.val) = [1, 2] ∧
      (claimed analyses' series').map (·.val) = [1, 2] := by
  intro analyses series unasked analyses' series'
  have hincidence : SameIncidence analyses series analyses unasked := ⟨rfl, rfl, by decide⟩
  have hrename : Function.Injective (· + 1 : Id → Id) := fun a b h ↦ by simpa using h
  have hdisguise : Disguise (· + 1) analyses series analyses' series' := by
    refine ⟨.cons rfl (.cons rfl (.cons rfl .nil)), ?_⟩
    refine .cons ⟨rfl, fun id ↦ ?_⟩ (.cons ⟨rfl, fun id ↦ ?_⟩ (.cons ⟨rfl, fun id ↦ ?_⟩ .nil))
    · simp [DataSeries.ofIds]
    · simp [DataSeries.ofIds, or_comm]
    · simp [DataSeries.ofIds]
  exact ⟨hincidence, (samePlaces_of_incidence _ _ _ _).1 hincidence, hrename, hdisguise,
    (samePlaces_of_incidence _ _ _ _).2 _ hrename hdisguise, by decide, by decide, by decide⟩

end Selection

end MonitorCore

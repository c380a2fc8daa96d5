import Mathlib.Data.List.Nodup
import Mathlib.Data.List.ReduceOption
import MonitorCore.Series.Selection

/-!
# The claim loop on distinct entries

The loop of `claims` looks at nothing but the relation between subjects and entries, so its entries
can be exchanged for others with the same relation, and a test made on the pool beforehand can be
made at every claim instead. That is what lets a pool of series be replaced by the pool of their
places in the input.

## The shrinking pool

Among distinct entries, taking the first one that serves is the same as dropping what was claimed.
The pool a subject sees is then the whole pool without the earlier claims, and the claim of each
subject is told from the unchanged pool: `getElem?_claims`.
-/

namespace MonitorCore

namespace Selection

section FirstFit

variable {σ α β : Type}

/-! ## A single claim -/

/-- What a claim can do: nothing serves and the pool stays, or one entry is taken out. -/
theorem find?_eraseP_cases (p : α → Bool) (pool : List α) :
    (pool.find? p = none ∧ pool.eraseP p = pool) ∨
      ∃ a l₁ l₂, pool = l₁ ++ a :: l₂ ∧ pool.find? p = some a ∧ pool.eraseP p = l₁ ++ l₂ := by
  cases hfind : pool.find? p with
  | none => exact Or.inl ⟨rfl, List.eraseP_of_forall_not (List.find?_eq_none.mp hfind)⟩
  | some a =>
    obtain ⟨ha, l₁, l₂, rfl, hl₁⟩ := List.find?_eq_some_iff_append.mp hfind
    have hbefore : ∀ b ∈ l₁, ¬p b = true := fun b hb ↦ by simpa using hl₁ b hb
    refine Or.inr ⟨a, l₁, l₂, rfl, rfl, ?_⟩
    rw [List.eraseP_append_right _ hbefore, List.eraseP_cons_of_pos ha]

theorem eraseP_append_of_find?_eq_some {p : α → Bool} {l₁ : List α} {a : α}
    (h : l₁.find? p = some a) (l₂ : List α) : (l₁ ++ l₂).eraseP p = l₁.eraseP p ++ l₂ :=
  List.eraseP_append_left (List.find?_some h) l₂ (List.mem_of_find?_eq_some h)

theorem eraseP_append_of_find?_eq_none {p : α → Bool} {l₁ : List α} (h : l₁.find? p = none)
    (l₂ : List α) : (l₁ ++ l₂).eraseP p = l₁ ++ l₂.eraseP p :=
  List.eraseP_append_right l₂ (List.find?_eq_none.mp h)

/-! ## Runs in a row -/

def remaining (serves : σ → α → Bool) : List σ → List α → List α
  | [], pool => pool
  | subject :: subjects, pool => remaining serves subjects (pool.eraseP (serves subject))

theorem claims_append (serves : σ → α → Bool) (before after : List σ) (pool : List α) :
    claims serves (before ++ after) pool
      = claims serves before pool ++ claims serves after (remaining serves before pool) := by
  induction before generalizing pool with
  | nil => rfl
  | cons subject before ih =>
    rw [List.cons_append, claims, claims, remaining, ih, List.cons_append]

/-! ## Exchanging the entries -/

theorem claims_map {serves : σ → α → Bool} {serves' : σ → β → Bool} {f : α → β}
    (h : ∀ subject entry, serves' subject (f entry) = serves subject entry) (subjects : List σ)
    (pool : List α) :
    claims serves' subjects (pool.map f) = (claims serves subjects pool).map (Option.map f) := by
  induction subjects generalizing pool with
  | nil => rfl
  | cons subject subjects ih =>
    have hcomp : serves' subject ∘ f = serves subject := funext (h subject)
    rw [claims, claims, List.find?_map, List.eraseP_map, hcomp, ih, List.map_cons]

/-- A test that the pool was filtered by can be made at every claim instead. -/
theorem claims_filter (serves : σ → α → Bool) (p : α → Bool) (subjects : List σ)
    (pool : List α) :
    claims serves subjects (pool.filter p)
      = claims (fun subject entry ↦ p entry && serves subject entry) subjects pool := by
  induction subjects generalizing pool with
  | nil => rfl
  | cons subject subjects ih =>
    simp only [claims, List.find?_filter, List.eraseP_filter, ih, Bool.decide_and,
      Bool.decide_eq_true, Bool.and_comm]

/-! ## Distinct entries -/

variable [DecidableEq α]

private theorem eraseP_eq_filter {pool : List α} (hpool : pool.Nodup) (p : α → Bool) :
    pool.eraseP p = pool.filter fun x ↦ decide (pool.find? p ≠ some x) := by
  induction pool with
  | nil => rfl
  | cons a pool ih =>
    obtain ⟨ha, hpool⟩ := List.nodup_cons.mp hpool
    by_cases hp : p a = true
    · have hkeep : ∀ x ∈ pool, decide (some a ≠ some x) = true := by
        intro x hx
        refine decide_eq_true fun hax ↦ ha ?_
        rwa [Option.some_inj.mp hax]
      rw [List.eraseP_cons_of_pos hp, List.find?_cons_of_pos hp,
        List.filter_cons_of_neg (by simp), List.filter_eq_self.mpr hkeep]
    · have hkeep : pool.find? p ≠ some a := fun hfind ↦ ha (List.mem_of_find?_eq_some hfind)
      rw [List.eraseP_cons_of_neg hp, List.find?_cons_of_neg hp,
        List.filter_cons_of_pos (by simpa using hkeep), ih hpool]

/-- **The pool after a run.** What is left is the pool without all that was claimed. -/
theorem remaining_eq_filter (serves : σ → α → Bool) (subjects : List σ) {pool : List α}
    (hpool : pool.Nodup) :
    remaining serves subjects pool
      = pool.filter fun x ↦ decide (x ∉ (claims serves subjects pool).reduceOption) := by
  induction subjects generalizing pool with
  | nil => exact (List.filter_eq_self.mpr fun x _ ↦ decide_eq_true List.not_mem_nil).symm
  | cons subject subjects ih =>
    rw [remaining, ih (hpool.sublist List.eraseP_sublist), eraseP_eq_filter hpool,
      List.filter_filter]
    refine List.filter_congr fun x _ ↦ ?_
    rw [← Bool.decide_and, decide_eq_decide, ← eraseP_eq_filter hpool, claims,
      List.reduceOption_mem_iff, List.reduceOption_mem_iff, List.mem_cons, not_or, and_comm,
      ne_comm]

/-- **The claim of each subject, told from the unchanged pool.** It is the first entry that serves
the subject and is none of the earlier claims. -/
theorem getElem?_claims (serves : σ → α → Bool) {pool : List α} (hpool : pool.Nodup)
    (subjects : List σ) (i : ℕ) :
    (claims serves subjects pool)[i]? = subjects[i]?.map fun subject ↦
      pool.find? fun x ↦
        serves subject x && decide (some x ∉ (claims serves subjects pool).take i) := by
  induction subjects generalizing pool i with
  | nil => rfl
  | cons subject subjects ih =>
    cases i with
    | zero => simp [claims]
    | succ i =>
      -- the pool that is left serves the later subjects as the whole pool does, less this claim
      have hrest := ih (hpool.sublist (List.eraseP_sublist (p := serves subject))) i
      have hfind : ∀ q : α → Bool, (pool.eraseP (serves subject)).find? q
          = pool.find? fun x ↦ decide (pool.find? (serves subject) ≠ some x) && q x := by
        intro q
        rw [eraseP_eq_filter hpool, List.find?_filter]
        simp only [Bool.decide_and, Bool.decide_eq_true]
      rw [claims, List.getElem?_cons_succ, List.getElem?_cons_succ, hrest]
      congr 1
      funext later
      rw [hfind]
      congr 1
      funext x
      rw [List.take_succ_cons, ← Bool.and_assoc, Bool.and_comm _ (serves later x),
        Bool.and_assoc, ← Bool.decide_and]
      simp only [List.mem_cons, not_or, ne_comm, ne_eq]

end FirstFit

end Selection

end MonitorCore

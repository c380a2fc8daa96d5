import Mathlib.Algebra.Group.Action.Defs
import Mathlib.Algebra.Order.BigOperators.Group.List
import Mathlib.Algebra.Order.Ring.Nat
import MonitorCore.Session.Race

/-!
# Moves of callers

What one move of a caller can do is said once, by `Moved`, with one constructor for each way a move
can go. Safety and progress of callers both rest on this case analysis.

## Progress

A caller that is kept out by another one may move as often as it likes and stay where it is, so no
number of moves of one caller alone makes it return. In a *round*, in which every caller moves at
least once, some caller comes on: the one inside is never kept out, and if nobody is inside then
nobody is. Each caller comes on three times at most, so three rounds for each caller are enough for
all of them to return, whatever the order within the rounds (`returned_of_rounds`).
-/

namespace MonitorCore

namespace Session

variable [Platform]

/-- How many moves there are before the caller has returned, if it is not kept out. -/
def Caller.movesLeft : Caller → Nat
  | waiting _ => Race.movesOfCaller
  | inside _ => 2
  | leaving _ => 1
  | returned _ => 0

namespace Race

variable {race : Race} {i : Nat}

/-! ## One move -/

/-- The race in which the caller with the given number has come to another state. -/
def put (race : Race) (i : Nat) (session : Session) (caller : Caller) : Race :=
  { race with session := session, callers := race.callers.set i caller }

/-- How the next move of a caller can go, and to which race it leads. -/
inductive Moved (race : Race) (i : Nat) (next : Race) : Prop
  /-- There is no such caller. -/
  | absent (hcaller : race.callers[i]? = none) (hnext : next = race)
  /-- It has returned already. -/
  | stays (attempt : Attempt Outcome) (hcaller : race.callers[i]? = some (.returned attempt))
      (hnext : next = race)
  /-- It is kept out by another one. -/
  | waits (config : Option LoggingConfig) (hcaller : race.callers[i]? = some (.waiting config))
      (hnone : race.session.outcome = none) (hbusy : race.callers.any Caller.isInside = true)
      (hnext : next = race)
  /-- It returns with the outcome that is remembered. -/
  | answered (config : Option LoggingConfig) (outcome : Outcome)
      (hcaller : race.callers[i]? = some (.waiting config))
      (hknown : race.session.outcome = some outcome)
      (hnext : next = race.put i race.session (.returned (.ended outcome)))
  /-- It goes in. -/
  | enters (config : Option LoggingConfig) (hcaller : race.callers[i]? = some (.waiting config))
      (hnone : race.session.outcome = none) (hfree : race.callers.any Caller.isInside = false)
      (hnext : next = race.put i race.session (.inside config))
  /-- It makes its attempt. -/
  | tries (config : Option LoggingConfig) (effect : Effect (Attempt Outcome))
      (hcaller : race.callers[i]? = some (.inside config))
      (heffect : race.session.install (config.getD .default) = effect)
      (hnext : next = race.put i (effect.settle (race.thread i)).1 (.leaving effect.result))
  /-- It leaves, and what it has come to is remembered. -/
  | leaves (attempt : Attempt Outcome) (hcaller : race.callers[i]? = some (.leaving attempt))
      (hnext : next = race.put i (race.session.remember attempt) (.returned attempt))

omit [Platform] in
private theorem set_eq_self {α : Type} {l : List α} {i : Nat} {a : α} (h : l[i]? = some a) :
    l.set i a = l := by
  obtain ⟨hi, rfl⟩ := List.getElem?_eq_some_iff.mp h
  exact List.set_getElem_self hi

theorem advance_eq_put {caller : Caller} (hcaller : race.callers[i]? = some caller) :
    race.advance i = race.put i
      (move (race.thread i) (!race.callers.any Caller.isInside) race.session caller).1
      (move (race.thread i) (!race.callers.any Caller.isInside) race.session caller).2 := by
  rw [advance, hcaller, put]

theorem advance_of_free {config : Option LoggingConfig}
    (hcaller : race.callers[i]? = some (.waiting config)) (hnone : race.session.outcome = none)
    (hfree : race.callers.any Caller.isInside = false) :
    race.advance i = race.put i race.session (.inside config) := by
  rw [advance_eq_put hcaller, move, hnone, hfree]
  rfl

theorem advance_of_leaving {attempt : Attempt Outcome}
    (hcaller : race.callers[i]? = some (.leaving attempt)) :
    race.advance i = race.put i (race.session.remember attempt) (.returned attempt) :=
  advance_eq_put hcaller

/-- **The move.** -/
theorem moved_advance (race : Race) (i : Nat) : Moved race i (race.advance i) := by
  cases hcaller : race.callers[i]? with
  | none => exact .absent hcaller (by rw [advance, hcaller])
  | some caller =>
    have hmove := advance_eq_put hcaller
    have hstay : race.put i race.session caller = race := by
      rw [put, set_eq_self hcaller]
    cases caller with
    | waiting config =>
      cases hknown : race.session.outcome with
      | some outcome =>
        refine .answered config outcome hcaller hknown ?_
        rw [hmove, move, hknown]
      | none =>
        cases hbusy : race.callers.any Caller.isInside with
        | true =>
          refine .waits config hcaller hknown hbusy ?_
          rw [hmove, move, hknown, hbusy]
          exact hstay
        | false =>
          exact .enters config hcaller hknown hbusy (advance_of_free hcaller hknown hbusy)
    | inside config => exact .tries config _ hcaller rfl hmove
    | leaving attempt => exact .leaves attempt hcaller (advance_of_leaving hcaller)
    | returned attempt => exact .stays attempt hcaller (hmove.trans hstay)

omit [Platform] in
theorem getElem?_put (hi : i < race.callers.length) (session : Session) (caller : Caller)
    (j : Nat) :
    (race.put i session caller).callers[j]? = if i = j then some caller else race.callers[j]? := by
  rw [put, List.getElem?_set, if_pos hi]

omit [Platform] in
theorem lt_of_getElem? {caller : Caller} (h : race.callers[i]? = some caller) :
    i < race.callers.length :=
  (List.getElem?_eq_some_iff.mp h).1

@[simp] theorem length_callers_run (race : Race) (schedule : List Nat) :
    (race.run schedule).callers.length = race.callers.length := by
  induction schedule generalizing race with
  | nil => rfl
  | cons i schedule ih => rw [run_cons, ih, length_callers_advance]

/-! ## Progress -/

/-- How many moves there are before all callers have returned. -/
def movesLeft (race : Race) : Nat := (race.callers.map Caller.movesLeft).sum

omit [Platform] in
private theorem sum_map_set_lt {α : Type} (f : α → Nat) {l : List α} {i : Nat} {a b : α}
    (h : l[i]? = some a) (hlt : f b < f a) : ((l.set i b).map f).sum < (l.map f).sum := by
  induction l generalizing i with
  | nil => simp at h
  | cons c l ih =>
    cases i with
    | zero =>
      rw [List.getElem?_cons_zero, Option.some_inj] at h
      rw [List.set_cons_zero, List.map_cons, List.map_cons, List.sum_cons, List.sum_cons, h]
      exact Nat.add_lt_add_right hlt _
    | succ i =>
      rw [List.set_cons_succ, List.map_cons, List.map_cons, List.sum_cons, List.sum_cons]
      exact Nat.add_lt_add_left (ih h) _

omit [Platform] in
theorem movesLeft_put_lt {caller next : Caller} (h : race.callers[i]? = some caller)
    (hlt : next.movesLeft < caller.movesLeft) (session : Session) :
    (race.put i session next).movesLeft < race.movesLeft :=
  sum_map_set_lt Caller.movesLeft h hlt

/-- A caller comes on with its move, or else there is no such caller, or it has returned, or it is
kept out. -/
theorem movesLeft_advance_lt_or_idle (race : Race) (i : Nat) :
    (race.advance i).movesLeft < race.movesLeft ∨
      race.advance i = race ∧ (race.callers[i]? = none ∨
        (∃ attempt, race.callers[i]? = some (.returned attempt)) ∨
        ∃ config, race.callers[i]? = some (.waiting config) ∧
          race.callers.any Caller.isInside = true) := by
  cases moved_advance race i with
  | absent hcaller hnext => exact .inr ⟨hnext, .inl hcaller⟩
  | stays attempt hcaller hnext => exact .inr ⟨hnext, .inr (.inl ⟨attempt, hcaller⟩)⟩
  | waits config hcaller hnone hbusy hnext =>
    exact .inr ⟨hnext, .inr (.inr ⟨config, hcaller, hbusy⟩)⟩
  | answered config outcome hcaller hknown hnext =>
    rw [hnext]
    refine .inl (movesLeft_put_lt hcaller ?_ _)
    exact Nat.zero_lt_succ 2
  | enters config hcaller hnone hfree hnext =>
    rw [hnext]
    refine .inl (movesLeft_put_lt hcaller ?_ _)
    exact Nat.lt_succ_self 2
  | tries config effect hcaller heffect hnext =>
    rw [hnext]
    refine .inl (movesLeft_put_lt hcaller ?_ _)
    exact Nat.lt_succ_self 1
  | leaves attempt hcaller hnext =>
    rw [hnext]
    refine .inl (movesLeft_put_lt hcaller ?_ _)
    exact Nat.lt_succ_self 0

/-- **No standstill.** While some caller has not returned, there is one that comes on. -/
theorem exists_movesLeft_advance_lt {caller : Caller} (hi : race.callers[i]? = some caller)
    (hcaller : ∀ attempt, caller ≠ .returned attempt) :
    ∃ j < race.callers.length, (race.advance j).movesLeft < race.movesLeft := by
  cases hbusy : race.callers.any Caller.isInside with
  | true =>
    -- the caller inside is not kept out
    obtain ⟨inner, hinner, hinside⟩ := List.any_eq_true.mp hbusy
    obtain ⟨j, hj⟩ := List.mem_iff_getElem?.mp hinner
    refine ⟨j, lt_of_getElem? hj, ?_⟩
    rcases movesLeft_advance_lt_or_idle race j with hlt | ⟨-, hidle⟩
    · exact hlt
    · rw [hj] at hidle
      rcases hidle with hnone | ⟨attempt, hreturned⟩ | ⟨config, hwaiting, -⟩
      · exact absurd hnone nofun
      · rw [Option.some_inj.mp hreturned] at hinside
        exact absurd hinside nofun
      · rw [Option.some_inj.mp hwaiting] at hinside
        exact absurd hinside nofun
  | false =>
    refine ⟨i, lt_of_getElem? hi, ?_⟩
    rcases movesLeft_advance_lt_or_idle race i with hlt | ⟨-, hidle⟩
    · exact hlt
    · rw [hi, hbusy] at hidle
      rcases hidle with hnone | ⟨attempt, hreturned⟩ | ⟨config, -, hnot⟩
      · exact absurd hnone nofun
      · exact absurd (Option.some_inj.mp hreturned) (hcaller attempt)
      · exact absurd hnot nofun

theorem movesLeft_run_le (race : Race) (schedule : List Nat) :
    (race.run schedule).movesLeft ≤ race.movesLeft := by
  induction schedule generalizing race with
  | nil => exact Nat.le_refl _
  | cons i schedule ih =>
    rcases movesLeft_advance_lt_or_idle race i with hlt | ⟨hsame, -⟩
    · exact (ih _).trans hlt.le
    · rw [run_cons, hsame]
      exact ih race

theorem movesLeft_run_lt_of_mem {schedule : List Nat} (hi : i ∈ schedule)
    (hlt : (race.advance i).movesLeft < race.movesLeft) :
    (race.run schedule).movesLeft < race.movesLeft := by
  induction schedule with
  | nil => exact absurd hi List.not_mem_nil
  | cons j schedule ih =>
    rw [run_cons]
    -- a move that brings nobody on changes nothing, so `i` could still come on after it
    rcases movesLeft_advance_lt_or_idle race j with hj | ⟨hsame, -⟩
    · exact (movesLeft_run_le _ _).trans_lt hj
    · rw [hsame]
      rcases List.mem_cons.mp hi with rfl | hi
      · rw [hsame] at hlt
        exact absurd hlt (Nat.lt_irrefl _)
      · exact ih hi

/-- A schedule in which each of so many callers moves at least once. -/
def IsRound (count : Nat) (schedule : List Nat) : Prop := ∀ i < count, i ∈ schedule

omit [Platform] in
theorem movesLeft_eq_zero_iff :
    race.movesLeft = 0 ↔
      ∀ i < race.callers.length, ∃ attempt, race.callers[i]? = some (.returned attempt) := by
  rw [movesLeft, List.sum_eq_zero_iff]
  constructor
  · intro h i hi
    have hzero := h _ (List.mem_map_of_mem (List.getElem_mem hi))
    rw [List.getElem?_eq_getElem hi]
    cases hcaller : race.callers[i] with
    | returned attempt => exact ⟨attempt, rfl⟩
    | _ =>
      rw [hcaller] at hzero
      exact absurd hzero nofun
  · intro h n hn
    obtain ⟨caller, hcaller, rfl⟩ := List.mem_map.mp hn
    obtain ⟨i, hi⟩ := List.mem_iff_getElem?.mp hcaller
    obtain ⟨attempt, hreturned⟩ := h i (lt_of_getElem? hi)
    rw [Option.some_inj.mp (hi.symm.trans hreturned)]
    rfl

/-- **A round.** Some caller comes on, unless all have returned. -/
theorem movesLeft_round {round : List Nat} (hround : IsRound race.callers.length round) :
    (race.run round).movesLeft ≤ race.movesLeft - 1 := by
  by_cases hzero : race.movesLeft = 0
  · have hle := movesLeft_run_le race round
    omega
  · rw [movesLeft_eq_zero_iff] at hzero
    push Not at hzero
    obtain ⟨i, hi, hcaller⟩ := hzero
    obtain ⟨j, hj, hlt⟩ := exists_movesLeft_advance_lt (List.getElem?_eq_getElem hi)
      fun attempt hreturned ↦ hcaller attempt (by rw [List.getElem?_eq_getElem hi, hreturned])
    have hrun := movesLeft_run_lt_of_mem (hround j hj) hlt
    omega

theorem movesLeft_rounds {rounds : List (List Nat)}
    (hrounds : ∀ round ∈ rounds, IsRound race.callers.length round) :
    (race.run rounds.flatten).movesLeft ≤ race.movesLeft - rounds.length := by
  induction rounds generalizing race with
  | nil => exact Nat.le_refl _
  | cons round rounds ih =>
    have hround := movesLeft_round (hrounds round List.mem_cons_self)
    have hlater : ∀ later ∈ rounds, IsRound (race.run round).callers.length later := by
      rw [length_callers_run]
      exact fun later hlater ↦ hrounds later (List.mem_cons_of_mem _ hlater)
    have hrest := ih hlater
    rw [List.flatten_cons, run_append, List.length_cons]
    omega

omit [Platform] in
theorem movesLeft_le (race : Race) : race.movesLeft ≤ movesOfCaller * race.callers.length := by
  have hle : ∀ n ∈ race.callers.map Caller.movesLeft, n ≤ movesOfCaller := by
    intro n hn
    obtain ⟨caller, -, rfl⟩ := List.mem_map.mp hn
    cases caller <;> simp [Caller.movesLeft, movesOfCaller]
  have hsum := List.sum_le_card_nsmul _ _ hle
  rw [List.length_map, smul_eq_mul, Nat.mul_comm] at hsum
  exact hsum

/-- **Everyone returns.** From any point, three rounds for each caller are enough. -/
theorem returned_of_rounds {rounds : List (List Nat)}
    (hlength : movesOfCaller * race.callers.length ≤ rounds.length)
    (hrounds : ∀ round ∈ rounds, IsRound race.callers.length round) (hi : i < race.callers.length) :
    ∃ attempt, (race.run rounds.flatten).callers[i]? = some (.returned attempt) := by
  have hleft := movesLeft_rounds hrounds
  have hle := movesLeft_le race
  have hzero : (race.run rounds.flatten).movesLeft = 0 := by omega
  refine movesLeft_eq_zero_iff.mp hzero i ?_
  rw [length_callers_run]
  exact hi

end Race

end Session

end MonitorCore

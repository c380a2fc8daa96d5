import MonitorCore.Proofs.Session.Installation
import MonitorCore.Proofs.Session.Moves

/-!
# Phases of a race

A race is first *undecided*: installations may have broken off, and the session differs from its
start in files only. The first installation that comes to its end makes it *decided*; its caller is
still inside and keeps the others out. With its leaving the race is *settled*: the outcome is
remembered, and nobody goes in any more. `Phase` says what the session and the callers are like in
each of them, told by the installations that were made, and every move keeps to it or leads to the
next one (`Invariant.advance`). So it holds at every point of every race (`invariant_run`).
-/

namespace MonitorCore

namespace Session

variable [Platform]

/-! ## Installations of a race -/

/-- An installation made in a race: by which caller, with which configuration, on which thread, and
in which session. -/
structure Installation where
  caller : Nat
  config : Option LoggingConfig
  thread : Thread
  session : Session

namespace Installation

variable {m : Installation}

def effect (m : Installation) : Effect (Attempt Outcome) :=
  m.session.install (m.config.getD .default)

def attempt (m : Installation) : Attempt Outcome := m.effect.result

/-- The session that the installation leaves. -/
def after (m : Installation) : Session := (m.effect.settle m.thread).1

/-- The installation is made with the configuration of its caller, while no outcome is remembered,
and in a session that differs from `base` in files only. -/
structure IsFrom (base : Session) (configs : List (Option LoggingConfig)) (m : Installation) :
    Prop where
  config_eq : configs[m.caller]? = some m.config
  outcome_eq : base.outcome = none
  session_eq : ∃ files, m.session = { base with files := files }

theorem outcome_after (m : Installation) : m.after.outcome = m.session.outcome := by
  rw [after, Effect.outcome_settle, effect, outcome_install]

theorem effect_of_broken (h : m.attempt = .broken) :
    ∃ files, m.effect = .quiet { m.session with files := files } .broken := by
  cases tried_install (m.config.getD .default) m.session with
  | broke files heffect => exact ⟨files, heffect⟩
  | failed files failure heffect =>
    rw [attempt, effect, heffect] at h
    exact absurd h nofun
  | installed dir files subscriber hvacant hbuilt heffect =>
    rw [attempt, effect, heffect] at h
    exact absurd h nofun

theorem effect_of_ok (h : m.attempt = .ended (.ok ())) :
    ∃ dir files subscriber,
      subscriber.BuiltFrom (m.config.getD .default) m.session.env m.session.files dir ∧
      m.effect =
        { session := { m.session with files := files, global := .service subscriber }
          result := .ended (.ok ())
          events := [initializedEvent (m.config.getD .default) dir] } := by
  cases tried_install (m.config.getD .default) m.session with
  | broke files heffect =>
    rw [attempt, effect, heffect] at h
    exact absurd h nofun
  | failed files failure heffect =>
    rw [attempt, effect, heffect] at h
    exact absurd h nofun
  | installed dir files subscriber hvacant hbuilt heffect =>
    exact ⟨dir, files, subscriber, hbuilt, heffect⟩

end Installation

/-- What the installations of the caller with the given number came to. -/
def attemptsOf (made : List Installation) (i : Nat) : List (Attempt Outcome) :=
  (made.filter fun m ↦ m.caller = i).map Installation.attempt

theorem mem_attemptsOf {made : List Installation} {i : Nat} {attempt : Attempt Outcome} :
    attempt ∈ attemptsOf made i ↔ ∃ m ∈ made, m.caller = i ∧ m.attempt = attempt := by
  simp [attemptsOf, and_assoc]

theorem attemptsOf_append (made more : List Installation) (i : Nat) :
    attemptsOf (made ++ more) i = attemptsOf made i ++ attemptsOf more i := by
  rw [attemptsOf, List.filter_append, List.map_append, attemptsOf, attemptsOf]

theorem attemptsOf_singleton_self (m : Installation) : attemptsOf [m] m.caller = [m.attempt] := by
  simp [attemptsOf]

theorem attemptsOf_singleton_of_ne {m : Installation} {i : Nat} (h : i ≠ m.caller) :
    attemptsOf [m] i = [] := by
  simp [attemptsOf, h.symm]

namespace Race

/-- The installation that the next move of a caller makes, if the caller is inside. -/
def installation? (race : Race) (i : Nat) : Option Installation :=
  match race.callers[i]? with
  | some (.inside config) => some ⟨i, config, race.thread i, race.session⟩
  | _ => none

/-- The installations that the moves of a schedule make, in order. -/
def installations (race : Race) : List Nat → List Installation
  | [] => []
  | i :: schedule =>
    (race.installation? i).toList ++ (race.advance i).installations schedule

end Race

/-! ## States of a caller -/

namespace Caller

/-- The states of a caller while no installation has come to its end. -/
def Undecided (base : Session) : Caller → Prop
  | waiting _ => True
  | inside _ => base.outcome = none
  | leaving attempt => attempt = .broken
  | returned attempt =>
    attempt = .broken ∨ ∃ outcome, base.outcome = some outcome ∧ attempt = .ended outcome

/-- The states of a caller while the one whose installation has come to its end is inside. -/
def Decided (outcome : Outcome) : Caller → Prop
  | waiting _ => True
  | inside _ => False
  | leaving attempt => attempt = .ended outcome
  | returned attempt => attempt = .broken

/-- The states of a caller when the outcome is remembered. -/
def Settled (outcome : Outcome) : Caller → Prop
  | waiting _ => True
  | inside _ => False
  | leaving _ => False
  | returned attempt => attempt = .broken ∨ attempt = .ended outcome

/-- How the state of the caller with the given number goes together with its own installations: it
has a configuration and has made none so far, or it has made one and comes to what that came to, or
it has returned with an outcome and has made none. -/
def Backed (configs : List (Option LoggingConfig)) (made : List Installation) (i : Nat) :
    Caller → Prop
  | waiting config => configs[i]? = some config ∧ attemptsOf made i = []
  | inside config => configs[i]? = some config ∧ attemptsOf made i = []
  | leaving attempt => attemptsOf made i = [attempt]
  | returned attempt =>
    attemptsOf made i = [attempt] ∨ attemptsOf made i = [] ∧ attempt ≠ .broken

variable {base : Session} {outcome : Outcome} {configs : List (Option LoggingConfig)}
  {made more : List Installation} {i : Nat} {caller : Caller}

omit [Platform] in
/-- The callers outside when an installation comes to its end. -/
theorem Undecided.decided (h : caller.Undecided base) (hnone : base.outcome = none)
    (hout : caller.isInside = false) : caller.Decided outcome := by
  cases caller with
  | waiting config => exact trivial
  | inside config => exact absurd hout nofun
  | leaving attempt => exact absurd hout nofun
  | returned attempt =>
    rcases h with hbroken | ⟨outcome, hsome, -⟩
    · exact hbroken
    · rw [hnone] at hsome
      exact absurd hsome nofun

omit [Platform] in
theorem Decided.settled (h : caller.Decided outcome) (hout : caller.isInside = false) :
    caller.Settled outcome := by
  cases caller with
  | waiting config => exact trivial
  | inside config => exact absurd hout nofun
  | leaving attempt => exact absurd hout nofun
  | returned attempt => exact .inl h

theorem Backed.append (h : caller.Backed configs made i) (hmore : attemptsOf more i = []) :
    caller.Backed configs (made ++ more) i := by
  have hsame : attemptsOf (made ++ more) i = attemptsOf made i := by
    rw [attemptsOf_append, hmore, List.append_nil]
  cases caller <;> simp only [Backed, hsame] <;> exact h

end Caller

namespace Race

/-- The caller with the given number keeps the others out. -/
def IsInsideAt (race : Race) (i : Nat) : Prop :=
  ∃ caller, race.callers[i]? = some caller ∧ caller.isInside = true

/-- What the session and the callers are like, with the installations made so far in a race that
began with a session `base`. -/
inductive Phase (base : Session) (race : Race) (made : List Installation) : Prop
  /-- No installation has come to its end. -/
  | undecided (hmade : ∀ m ∈ made, m.attempt = .broken)
      (hsession : ∃ files, race.session = { base with files := files })
      (hcallers : ∀ (j : Nat) (c : Caller), race.callers[j]? = some c → c.Undecided base)
  /-- The last installation has come to its end, and its caller is still inside. -/
  | decided (earlier : List Installation) (m : Installation) (outcome : Outcome)
      (hmade : made = earlier ++ [m]) (hearlier : ∀ m ∈ earlier, m.attempt = .broken)
      (hattempt : m.attempt = .ended outcome) (hsession : race.session = m.after)
      (hnone : race.session.outcome = none) (hinside : race.IsInsideAt m.caller)
      (hcallers : ∀ (j : Nat) (c : Caller), race.callers[j]? = some c → c.Decided outcome)
  /-- The last installation has come to its end, and its outcome is remembered. -/
  | settled (earlier : List Installation) (m : Installation) (outcome : Outcome)
      (hmade : made = earlier ++ [m]) (hearlier : ∀ m ∈ earlier, m.attempt = .broken)
      (hattempt : m.attempt = .ended outcome)
      (hsession : race.session = { m.after with outcome := some outcome })
      (hcallers : ∀ (j : Nat) (c : Caller), race.callers[j]? = some c → c.Settled outcome)

/-- What holds at every point of a race that began with a session `base` and callers with these
configurations. -/
structure Invariant (base : Session) (configs : List (Option LoggingConfig)) (race : Race)
    (made : List Installation) : Prop where
  /-- At most one caller is inside. -/
  exclusive : ∀ i j, race.IsInsideAt i → race.IsInsideAt j → i = j
  backed : ∀ (j : Nat) (c : Caller), race.callers[j]? = some c → c.Backed configs made j
  isFrom : ∀ m ∈ made, m.IsFrom base configs
  phase : Phase base race made

/-! ## One move -/

variable {base : Session} {configs : List (Option LoggingConfig)} {race : Race}
  {made more : List Installation} {i : Nat} {session : Session} {caller : Caller}

omit [Platform] in
theorem forall_put {P : Nat → Caller → Prop} (hnew : P i caller)
    (hothers : ∀ (j : Nat) (c : Caller), j ≠ i → race.callers[j]? = some c → P j c) :
    ∀ (j : Nat) (c : Caller), (race.put i session caller).callers[j]? = some c → P j c := by
  intro j c hj
  rw [put, List.getElem?_set] at hj
  by_cases hij : i = j
  · rw [if_pos hij] at hj
    split at hj
    · rw [← hij, ← Option.some_inj.mp hj]
      exact hnew
    · exact absurd hj.symm (Option.some_ne_none c)
  · rw [if_neg hij] at hj
    exact hothers j c (Ne.symm hij) hj

omit [Platform] in
theorem IsInsideAt.of_put {j : Nat} (h : (race.put i session caller).IsInsideAt j) :
    (j = i ∧ caller.isInside = true) ∨ (j ≠ i ∧ race.IsInsideAt j) := by
  obtain ⟨c, hc, hinside⟩ := h
  exact forall_put (P := fun j c ↦ c.isInside = true →
      (j = i ∧ caller.isInside = true) ∨ (j ≠ i ∧ race.IsInsideAt j))
    (fun hnew ↦ .inl ⟨rfl, hnew⟩) (fun j c hj hc hinside ↦ .inr ⟨hj, c, hc, hinside⟩) j c hc hinside

omit [Platform] in
theorem isInside_eq_false {j : Nat} (hexclusive : ∀ j, race.IsInsideAt j → j = i) (hj : j ≠ i)
    (hcaller : race.callers[j]? = some caller) : caller.isInside = false := by
  cases hinside : caller.isInside with
  | false => rfl
  | true => exact absurd (hexclusive j ⟨caller, hcaller, hinside⟩) hj

/-- What is to be shown of a move in which a caller comes to another state, if it makes these
installations. -/
theorem Invariant.put (h : Invariant base configs race made)
    (hinside : caller.isInside = true → ∀ j, race.IsInsideAt j → j = i)
    (hbacked : caller.Backed configs (made ++ more) i) (hmore : ∀ j ≠ i, attemptsOf more j = [])
    (hfrom : ∀ m ∈ more, m.IsFrom base configs)
    (hphase : Phase base (race.put i session caller) (made ++ more)) :
    Invariant base configs (race.put i session caller) (made ++ more) where
  exclusive := by
    intro j k hj hk
    rcases hj.of_put with ⟨rfl, hnew⟩ | ⟨-, hj'⟩
    · rcases hk.of_put with ⟨rfl, -⟩ | ⟨-, hk'⟩
      · rfl
      · exact (hinside hnew k hk').symm
    · rcases hk.of_put with ⟨rfl, hnew⟩ | ⟨-, hk'⟩
      · exact hinside hnew j hj'
      · exact h.exclusive j k hj' hk'
  backed := forall_put hbacked fun j c hj hc ↦ (h.backed j c hc).append (hmore j hj)
  isFrom := by
    intro m hm
    rcases List.mem_append.mp hm with hm | hm
    · exact h.isFrom m hm
    · exact hfrom m hm
  phase := hphase

theorem Invariant.put_quiet (h : Invariant base configs race made)
    (hinside : caller.isInside = true → ∀ j, race.IsInsideAt j → j = i)
    (hbacked : caller.Backed configs made i)
    (hphase : Phase base (race.put i session caller) made) :
    Invariant base configs (race.put i session caller) made := by
  rw [← List.append_nil made] at hbacked hphase ⊢
  exact h.put hinside hbacked (fun j _ ↦ rfl) (List.forall_mem_nil _) hphase

theorem Phase.answered (h : Phase base race made) {outcome : Outcome}
    (hknown : race.session.outcome = some outcome) :
    Phase base (race.put i race.session (.returned (.ended outcome))) made := by
  cases h with
  | undecided hmade hsession hcallers =>
    refine .undecided hmade hsession (forall_put (.inr ⟨outcome, ?_, rfl⟩) fun j c _ ↦ hcallers j c)
    obtain ⟨files, hfiles⟩ := hsession
    rw [hfiles] at hknown
    exact hknown
  | decided earlier m o hmade hearlier hattempt hsession hnone hinside hcallers =>
    rw [hnone] at hknown
    exact absurd hknown nofun
  | settled earlier m o hmade hearlier hattempt hsession hcallers =>
    refine .settled earlier m o hmade hearlier hattempt hsession
      (forall_put (.inr ?_) fun j c _ ↦ hcallers j c)
    rw [hsession] at hknown
    rw [Option.some_inj.mp hknown]

theorem Phase.enters (h : Phase base race made) {config : Option LoggingConfig}
    (hnone : race.session.outcome = none) (hfree : ∀ j, ¬race.IsInsideAt j) :
    Phase base (race.put i race.session (.inside config)) made := by
  cases h with
  | undecided hmade hsession hcallers =>
    refine .undecided hmade hsession (forall_put ?_ fun j c _ ↦ hcallers j c)
    obtain ⟨files, hfiles⟩ := hsession
    rw [hfiles] at hnone
    exact hnone
  | decided earlier m o hmade hearlier hattempt hsession hnone' hinside hcallers =>
    exact absurd hinside (hfree m.caller)
  | settled earlier m o hmade hearlier hattempt hsession hcallers =>
    rw [hsession] at hnone
    exact absurd hnone nofun

theorem Phase.undecided_of_inside (h : Phase base race made) {config : Option LoggingConfig}
    (hcaller : race.callers[i]? = some (.inside config)) :
    base.outcome = none ∧ (∀ m ∈ made, m.attempt = .broken) ∧
      (∃ files, race.session = { base with files := files }) ∧
      ∀ (j : Nat) (c : Caller), race.callers[j]? = some c → c.Undecided base := by
  cases h with
  | undecided hmade hsession hcallers => exact ⟨hcallers i _ hcaller, hmade, hsession, hcallers⟩
  | decided earlier m o hmade hearlier hattempt hsession hnone hinside hcallers =>
    exact (hcallers i _ hcaller).elim
  | settled earlier m o hmade hearlier hattempt hsession hcallers =>
    exact (hcallers i _ hcaller).elim

theorem Phase.tries (h : Phase base race made) {m : Installation}
    (hexclusive : ∀ j, race.IsInsideAt j → j = m.caller)
    (hcaller : race.callers[m.caller]? = some (.inside m.config)) (hm : m.session = race.session) :
    Phase base (race.put m.caller m.after (.leaving m.attempt)) (made ++ [m]) := by
  obtain ⟨hnone, hmade, ⟨files, hfiles⟩, hcallers⟩ := h.undecided_of_inside hcaller
  cases hattempt : m.attempt with
  | broken =>
    -- nothing is decided, and only files were left
    refine .undecided ?_ ?_ (forall_put rfl fun j c _ ↦ hcallers j c)
    · intro m' hm'
      rcases List.mem_append.mp hm' with hm' | hm'
      · exact hmade m' hm'
      · rw [List.mem_singleton.mp hm', hattempt]
    · obtain ⟨more, hmore⟩ := Installation.effect_of_broken hattempt
      refine ⟨more, ?_⟩
      rw [put, Installation.after, hmore, Effect.settle_quiet, hm, hfiles]
  | ended outcome =>
    -- nobody else is inside, so whoever has returned has done so without an outcome
    refine .decided made m outcome rfl hmade hattempt rfl ?_ ?_ ?_
    · rw [put, Installation.outcome_after, hm, hfiles]
      exact hnone
    · refine ⟨.leaving (.ended outcome), ?_, rfl⟩
      rw [getElem?_put (lt_of_getElem? hcaller), if_pos rfl]
    · exact forall_put rfl fun j c hj hc ↦
        (hcallers j c hc).decided hnone (isInside_eq_false hexclusive hj hc)

theorem Phase.leaves (h : Phase base race made) (hexclusive : ∀ j, race.IsInsideAt j → j = i)
    {attempt : Attempt Outcome} (hcaller : race.callers[i]? = some (.leaving attempt)) :
    Phase base (race.put i (race.session.remember attempt) (.returned attempt)) made := by
  cases h with
  | undecided hmade hsession hcallers =>
    have hbroken : attempt = .broken := hcallers i _ hcaller
    rw [hbroken]
    exact .undecided hmade hsession (forall_put (.inl rfl) fun j c _ ↦ hcallers j c)
  | decided earlier m outcome hmade hearlier hattempt hsession hnone hinside hcallers =>
    -- only the caller of the last installation can leave here
    have hended : attempt = .ended outcome := hcallers i _ hcaller
    rw [hended]
    refine .settled earlier m outcome hmade hearlier hattempt ?_ (forall_put (.inr rfl) ?_)
    · rw [put, hsession, remember]
    · exact fun j c hj hc ↦ (hcallers j c hc).settled (isInside_eq_false hexclusive hj hc)
  | settled earlier m outcome hmade hearlier hattempt hsession hcallers =>
    exact (hcallers i _ hcaller).elim

omit [Platform] in
theorem not_isInsideAt_of_free (hfree : race.callers.any Caller.isInside = false) (j : Nat) :
    ¬race.IsInsideAt j := by
  rintro ⟨c, hc, hinside⟩
  rw [List.any_eq_false] at hfree
  exact hfree c (List.mem_of_getElem? hc) hinside

/-- **The move.** It keeps to the phase, or leads to the next one. -/
theorem Invariant.advance (h : Invariant base configs race made) (i : Nat) :
    Invariant base configs (race.advance i) (made ++ (race.installation? i).toList) := by
  -- whoever is inside is the only one
  have honly : ∀ {c : Caller}, race.callers[i]? = some c → c.isInside = true →
      ∀ j, race.IsInsideAt j → j = i := fun hc hinside j hj ↦ h.exclusive j i hj ⟨_, hc, hinside⟩
  cases moved_advance race i with
  | absent hcaller hnext =>
    rw [hnext, installation?, hcaller, Option.toList_none, List.append_nil]
    exact h
  | stays attempt hcaller hnext =>
    rw [hnext, installation?, hcaller, Option.toList_none, List.append_nil]
    exact h
  | waits config hcaller hnone hbusy hnext =>
    rw [hnext, installation?, hcaller, Option.toList_none, List.append_nil]
    exact h
  | answered config outcome hcaller hknown hnext =>
    obtain ⟨-, hown⟩ := h.backed i _ hcaller
    rw [hnext, installation?, hcaller, Option.toList_none, List.append_nil]
    exact h.put_quiet nofun (.inr ⟨hown, nofun⟩) (h.phase.answered hknown)
  | enters config hcaller hnone hfree hnext =>
    have hout := not_isInsideAt_of_free hfree
    have hbacked := h.backed i _ hcaller
    rw [hnext, installation?, hcaller, Option.toList_none, List.append_nil]
    exact h.put_quiet (fun _ j hj ↦ absurd hj (hout j)) hbacked (h.phase.enters hnone hout)
  | tries config effect hcaller heffect hnext =>
    obtain ⟨hconfig, hown⟩ := h.backed i _ hcaller
    obtain ⟨hnone, -, hfiles, -⟩ := h.phase.undecided_of_inside hcaller
    rw [hnext, installation?, hcaller, Option.toList_some, ← heffect]
    refine h.put (fun _ ↦ honly hcaller rfl) ?_ (fun j hj ↦ attemptsOf_singleton_of_ne hj) ?_
      (h.phase.tries (m := ⟨i, config, race.thread i, race.session⟩) (honly hcaller rfl)
        hcaller rfl)
    · rw [Caller.Backed, attemptsOf_append, hown]
      exact attemptsOf_singleton_self _
    · intro m hm
      rw [List.mem_singleton.mp hm]
      exact ⟨hconfig, hnone, hfiles⟩
  | leaves attempt hcaller hnext =>
    have hown := h.backed i _ hcaller
    rw [hnext, installation?, hcaller, Option.toList_none, List.append_nil]
    exact h.put_quiet nofun (.inl hown) (h.phase.leaves (honly hcaller rfl) hcaller)

/-! ## A whole race -/

theorem Invariant.run (h : Invariant base configs race made) (schedule : List Nat) :
    Invariant base configs (race.run schedule) (made ++ race.installations schedule) := by
  induction schedule generalizing race made with
  | nil =>
    rw [installations, List.append_nil]
    exact h
  | cons i schedule ih =>
    rw [run_cons, installations, ← List.append_assoc]
    exact ih (h.advance i)

theorem invariant_start (session : Session) (configs : List (Option LoggingConfig)) :
    Invariant (start session configs).session configs (start session configs) [] := by
  have hwaiting : ∀ (j : Nat) (c : Caller), (start session configs).callers[j]? = some c →
      ∃ config, configs[j]? = some config ∧ c = .waiting config := by
    intro j c hc
    rw [start, List.getElem?_map, Option.map_eq_some_iff] at hc
    obtain ⟨config, hconfig, rfl⟩ := hc
    exact ⟨config, hconfig, rfl⟩
  refine ⟨?_, ?_, List.forall_mem_nil _,
    .undecided (List.forall_mem_nil _) ⟨session.files, rfl⟩ ?_⟩
  · rintro i j ⟨c, hc, hinside⟩ -
    obtain ⟨config, -, rfl⟩ := hwaiting i c hc
    exact absurd hinside nofun
  · intro j c hc
    obtain ⟨config, hconfig, rfl⟩ := hwaiting j c hc
    exact ⟨hconfig, rfl⟩
  · intro j c hc
    obtain ⟨config, -, rfl⟩ := hwaiting j c hc
    exact trivial

/-- **The race.** -/
theorem invariant_run (session : Session) (configs : List (Option LoggingConfig))
    (schedule : List Nat) :
    Invariant (start session configs).session configs ((start session configs).run schedule)
      ((start session configs).installations schedule) :=
  (invariant_start session configs).run schedule

end Race

end Session

end MonitorCore

import MonitorCore.Proofs.Session.Phases

/-!
# Callers set up logging once

Any number of callers may set up logging at the same time, each with a configuration of its own, in
any interleaving of their moves. One installation at most comes to its end. Its outcome is that of
every caller, but for those whose own installation broke off before, and if it is a success, the
subscriber in force is the one that its caller's configuration asks for.

All this is read off the phases of a race. That everyone returns in the end is the progress of
moves, `returned_of_rounds`.
-/

namespace MonitorCore

namespace Session

namespace Race

section

variable [Platform] {base : Session} {configs : List (Option LoggingConfig)} {race : Race}
  {made earlier : List Installation} {m : Installation} {outcome : Outcome} {i j : Nat}

/-! ## One installation comes to its end -/

private theorem pairwise_concat (hearlier : ∀ m ∈ earlier, m.attempt = .broken) :
    (earlier ++ [m]).Pairwise fun m _ ↦ m.attempt = .broken := by
  refine List.pairwise_append.mpr ⟨?_, List.pairwise_singleton _ m, fun m hm _ _ ↦ hearlier m hm⟩
  exact List.Pairwise.imp_of_mem (fun hm _ _ ↦ hearlier _ hm)
    (List.pairwise_of_forall fun _ _ ↦ trivial)

/-- Of two installations, the earlier one has broken off. -/
theorem Phase.pairwise (h : Phase base race made) :
    made.Pairwise fun m _ ↦ m.attempt = .broken := by
  cases h with
  | undecided hmade hsession hcallers =>
    exact (pairwise_concat (m := ⟨0, none, .main, base⟩) hmade).sublist
      (List.sublist_append_left made _)
  | decided earlier m o hmade hearlier hattempt hsession hnone hinside hcallers =>
    rw [hmade]
    exact pairwise_concat hearlier
  | settled earlier m o hmade hearlier hattempt hsession hcallers =>
    rw [hmade]
    exact pairwise_concat hearlier

private theorem eq_of_ended {last : Installation} (hearlier : ∀ m ∈ earlier, m.attempt = .broken)
    (hm : m ∈ earlier ++ [last]) (hended : m.attempt = .ended outcome) : m = last := by
  rcases List.mem_append.mp hm with hm | hm
  · rw [hearlier m hm] at hended
    exact absurd hended nofun
  · exact List.mem_singleton.mp hm

/-- An installation that has come to its end is the last one. What it left is what there is, but for
what is remembered, and nobody returns with another outcome. -/
theorem Phase.of_ended (h : Phase base race made) (hm : m ∈ made)
    (hended : m.attempt = .ended outcome) :
    (∃ earlier, made = earlier ++ [m] ∧ ∀ m ∈ earlier, m.attempt = .broken) ∧
      (∃ remembered, race.session = { m.after with outcome := remembered }) ∧
      ∀ (j : Nat) (attempt : Attempt Outcome), race.callers[j]? = some (.returned attempt) →
        attempt = .broken ∨ attempt = .ended outcome := by
  cases h with
  | undecided hmade hsession hcallers =>
    rw [hmade m hm] at hended
    exact absurd hended nofun
  | decided earlier last o hmade hearlier hattempt hsession hnone hinside hcallers =>
    rw [hmade] at hm
    obtain rfl := eq_of_ended hearlier hm hended
    exact ⟨⟨earlier, hmade, hearlier⟩, ⟨m.after.outcome, hsession⟩,
      fun j attempt hj ↦ .inl (hcallers j _ hj)⟩
  | settled earlier last o hmade hearlier hattempt hsession hcallers =>
    rw [hmade] at hm
    obtain rfl := eq_of_ended hearlier hm hended
    obtain rfl : o = outcome := Attempt.ended.inj (hattempt.symm.trans hended)
    exact ⟨⟨earlier, hmade, hearlier⟩, ⟨some o, hsession⟩, fun j attempt hj ↦ hcallers j _ hj⟩

theorem Phase.origin (h : Phase base race made)
    (hj : race.callers[j]? = some (.returned (.ended outcome))) :
    base.outcome = some outcome ∨ ∃ m ∈ made, m.attempt = .ended outcome := by
  cases h with
  | undecided hmade hsession hcallers =>
    rcases hcallers j _ hj with hbroken | ⟨o, hsome, hsame⟩
    · exact absurd hbroken nofun
    · rw [Attempt.ended.inj hsame]
      exact .inl hsome
  | decided earlier m o hmade hearlier hattempt hsession hnone hinside hcallers =>
    exact absurd (hcallers j _ hj) nofun
  | settled earlier m o hmade hearlier hattempt hsession hcallers =>
    rcases hcallers j _ hj with hbroken | hsame
    · exact absurd hbroken nofun
    · refine .inr ⟨m, ?_, hattempt.trans hsame.symm⟩
      rw [hmade]
      exact List.mem_append_right _ (List.mem_singleton_self m)

/-! ## The subscriber in force -/

private theorem flatMap_events_of_broken (hearlier : ∀ m ∈ earlier, m.attempt = .broken) :
    (earlier.flatMap fun m ↦ m.effect.events) = [] := by
  refine List.flatMap_eq_nil_iff.mpr fun m hm ↦ ?_
  obtain ⟨files, heffect⟩ := Installation.effect_of_broken (hearlier m hm)
  rw [heffect, Effect.quiet]

/-- **A success.** The subscriber of the configuration of exactly that caller is in force, one event
was emitted in the whole race, and the console has its record. -/
theorem Invariant.of_ok (h : Invariant base configs race made) (hm : m ∈ made)
    (hok : m.attempt = .ended (.ok ())) :
    ∃ dir subscriber, race.session.global = .service subscriber ∧
      subscriber.BuiltFrom (m.config.getD .default) base.env m.session.files dir ∧
      (made.flatMap fun m ↦ m.effect.events) = [initializedEvent (m.config.getD .default) dir] ∧
      race.session.console = base.console ++
        if subscriber.filter.enables (initializedEvent (m.config.getD .default) dir) then
          [consoleRecord subscriber m.thread (initializedEvent (m.config.getD .default) dir)]
        else [] := by
  obtain ⟨⟨earlier, rfl, hearlier⟩, ⟨remembered, hsession⟩, -⟩ := h.phase.of_ended hm hok
  obtain ⟨more, hfiles⟩ := (h.isFrom m hm).session_eq
  obtain ⟨dir, files, subscriber, hbuilt, heffect⟩ := Installation.effect_of_ok hok
  have hglobal : m.effect.session.global = .service subscriber := by rw [heffect]
  refine ⟨dir, subscriber, ?_, ?_, ?_, ?_⟩
  · rw [hsession]
    exact (Effect.global_settle m.thread m.effect).trans hglobal
  · rw [hfiles] at hbuilt ⊢
    exact hbuilt
  · rw [List.flatMap_append, flatMap_events_of_broken hearlier, List.nil_append,
      List.flatMap_singleton, heffect]
  · have hconsole : m.effect.session.console = base.console := by rw [heffect, hfiles]
    have hevents : m.effect.events = [initializedEvent (m.config.getD .default) dir] := by
      rw [heffect]
    rw [hsession, ← hconsole, ← console_record hglobal m.thread]
    rw [Installation.after, Effect.settle, hevents, recordAll_cons, recordAll_nil]

/-! ## An installation breaks off -/

theorem Phase.session_of_broken (h : Phase base race made)
    (hmade : ∀ m ∈ made, m.attempt = .broken) :
    ∃ files, race.session = { base with files := files } := by
  have hended : ∀ {earlier : List Installation} {m : Installation} {outcome : Outcome},
      made = earlier ++ [m] → m.attempt ≠ .ended outcome := by
    rintro earlier m outcome rfl hattempt
    rw [hmade m (List.mem_append_right earlier (List.mem_singleton_self m))] at hattempt
    exact absurd hattempt nofun
  cases h with
  | undecided _ hsession hcallers => exact hsession
  | decided earlier m o hlast hearlier hattempt hsession hnone hinside hcallers =>
    exact absurd hattempt (hended hlast)
  | settled earlier m o hlast hearlier hattempt hsession hcallers =>
    exact absurd hattempt (hended hlast)

theorem Invariant.outcome_of_broken (h : Invariant base configs race made)
    (hi : race.callers[i]? = some (.leaving .broken)) : race.session.outcome = none := by
  cases h.phase with
  | undecided hmade hsession hcallers =>
    -- its own installation was made while none was
    have hown : attemptsOf made i = [.broken] := h.backed i _ hi
    obtain ⟨m, hm, -, -⟩ := mem_attemptsOf.mp (hown ▸ List.mem_singleton_self _)
    obtain ⟨files, hfiles⟩ := hsession
    rw [hfiles]
    exact (h.isFrom m hm).outcome_eq
  | decided earlier m o hmade hearlier hattempt hsession hnone hinside hcallers => exact hnone
  | settled earlier m o hmade hearlier hattempt hsession hcallers =>
    exact (hcallers i _ hi).elim

/-- **The next one takes over.** When a caller has left whose installation has broken off, every
caller that waits can go in with its next move. -/
theorem Invariant.next_enters (h : Invariant base configs race made)
    (hi : race.callers[i]? = some (.leaving .broken)) {config : Option LoggingConfig}
    (hj : race.callers[j]? = some (.waiting config)) :
    ((race.advance i).advance j).callers[j]? = some (.inside config) := by
  have hnext : race.advance i = race.put i race.session (.returned .broken) :=
    advance_of_leaving hi
  have hij : i ≠ j := by
    rintro rfl
    exact absurd (hi.symm.trans hj) nofun
  have hj' : (race.advance i).callers[j]? = some (.waiting config) := by
    rw [hnext, getElem?_put (lt_of_getElem? hi), if_neg hij, hj]
  have hfree : (race.advance i).callers.any Caller.isInside = false := by
    rw [List.any_eq_false, hnext]
    intro c hc hinside
    obtain ⟨k, hk⟩ := List.mem_iff_getElem?.mp hc
    rcases IsInsideAt.of_put ⟨c, hk, hinside⟩ with ⟨-, hleft⟩ | ⟨hki, hk'⟩
    · exact absurd hleft nofun
    · exact hki (h.exclusive k i hk' ⟨_, hi, rfl⟩)
  have hnone : (race.advance i).session.outcome = none := by
    rw [hnext]
    exact h.outcome_of_broken hi
  rw [advance_of_free hj' hnone hfree, getElem?_put (lt_of_getElem? hj'), if_pos rfl]

/-! ## The whole race -/

/-- **One installation counts.** Callers set up the logging of a session at the same time, each with
its configuration, and `schedule` is any interleaving of their moves. Up to any point of the race:

- an installation is made with the configuration of its own caller, while no outcome is remembered;
- at most one comes to its end, since all before the last one have broken off;
- a caller that has returned was given what its own installation came to, or it made none and was
  given an outcome that was remembered before or that an installation of the race came to;
- as soon as an installation has come to its end, everyone who returns is given its outcome, but for
  those whose own installation broke off;
- if it is a success, the subscriber in force is built from the configuration of exactly that
  caller, and one event was emitted, whose record is what the console got;
- an installation that breaks off leaves nothing but files and emits nothing, and as long as there
  are no others the session differs from its start in files only;
- when a caller leaves whose installation has broken off, no outcome is remembered, and every caller
  that waits can go in with its next move;
- from here on, three rounds for each caller are enough for all of them to return. -/
theorem one_installation_counts (session : Session) (configs : List (Option LoggingConfig))
    (schedule : List Nat) :
    let race := start session configs
    let made := race.installations schedule
    let final := race.run schedule
    (∀ m ∈ made, m.IsFrom race.session configs) ∧
      (made.Pairwise fun m _ ↦ m.attempt = .broken) ∧
      (∀ (i : Nat) (attempt : Attempt Outcome), final.callers[i]? = some (.returned attempt) →
        attemptsOf made i = [attempt] ∨ attemptsOf made i = [] ∧ ∃ outcome,
          attempt = .ended outcome ∧
            (session.outcome = some outcome ∨ ∃ m ∈ made, m.attempt = .ended outcome)) ∧
      (∀ m ∈ made, ∀ outcome, m.attempt = .ended outcome →
        ∀ (i : Nat) (attempt : Attempt Outcome), final.callers[i]? = some (.returned attempt) →
          attempt = .ended outcome ∨ attempt = .broken ∧ attemptsOf made i = [.broken]) ∧
      (∀ m ∈ made, m.attempt = .ended (.ok ()) → ∃ dir subscriber,
        final.session.global = .service subscriber ∧
          subscriber.BuiltFrom (m.config.getD .default) session.env m.session.files dir ∧
          (made.flatMap fun m ↦ m.effect.events) =
            [initializedEvent (m.config.getD .default) dir] ∧
          final.session.console = session.console ++
            if subscriber.filter.enables (initializedEvent (m.config.getD .default) dir) then
              [consoleRecord subscriber m.thread (initializedEvent (m.config.getD .default) dir)]
            else []) ∧
      (∀ m ∈ made, m.attempt = .broken →
        ∃ files, m.effect = .quiet { m.session with files := files } .broken) ∧
      ((∀ m ∈ made, m.attempt = .broken) →
        ∃ files, final.session = { race.session with files := files }) ∧
      (∀ i : Nat, final.callers[i]? = some (.leaving .broken) →
        (final.advance i).session.outcome = none ∧
          ∀ (j : Nat) (config : Option LoggingConfig),
            final.callers[j]? = some (.waiting config) →
              ((final.advance i).advance j).callers[j]? = some (.inside config)) ∧
      ∀ rounds : List (List Nat), (∀ round ∈ rounds, IsRound configs.length round) →
        movesOfCaller * configs.length ≤ rounds.length → ∀ i < configs.length,
          ∃ attempt, (final.run rounds.flatten).callers[i]? = some (.returned attempt) := by
  intro race made final
  have h : Invariant race.session configs final made := invariant_run session configs schedule
  have hlength : final.callers.length = configs.length := by
    rw [length_callers_run]
    exact List.length_map _
  refine ⟨h.isFrom, h.phase.pairwise, fun i attempt hi ↦ ?_,
    fun m hm outcome hended i attempt hi ↦ ?_, fun m hm hok ↦ h.of_ok hm hok,
    fun m _ hbroken ↦ Installation.effect_of_broken hbroken, h.phase.session_of_broken,
    fun i hi ↦ ⟨?_, fun j config hj ↦ h.next_enters hi hj⟩, fun rounds hrounds hcount i hi ↦ ?_⟩
  · rcases h.backed i _ hi with hown | ⟨hown, hne⟩
    · exact .inl hown
    · cases attempt with
      | broken => exact absurd rfl hne
      | ended outcome => exact .inr ⟨hown, outcome, rfl, h.phase.origin hi⟩
  · obtain ⟨-, -, hgiven⟩ := h.phase.of_ended hm hended
    rcases hgiven i attempt hi with rfl | rfl
    · rcases h.backed i _ hi with hown | ⟨-, hne⟩
      · exact .inr ⟨rfl, hown⟩
      · exact absurd rfl hne
    · exact .inl rfl
  · rw [advance_of_leaving hi]
    exact h.outcome_of_broken hi
  · rw [← hlength] at hrounds hcount hi
    exact returned_of_rounds hcount hrounds hi

end

section

attribute [local instance] Platform.plain

/-- Three callers. The installation of the first one breaks off, since its level cannot be cut. The
second one is kept out until then, goes in after it, and installs. The third one is given that
outcome, although its own configuration asks for what cannot be had. -/
theorem one_installation_counts_after_break :
    let configs : List (Option LoggingConfig) :=
      [some { level := " é=info" }, none, some { fileOutput := true }]
    let race := start Session.start configs
    let tried := race.run [0, 1, 0, 2]
    let made := race.installations [0, 1, 0, 2, 0, 1, 2, 1, 2, 1, 2]
    let final := race.run [0, 1, 0, 2, 0, 1, 2, 1, 2, 1, 2]
    tried.callers[0]? = some (.leaving .broken) ∧ tried.callers[1]? = some (.waiting none) ∧
      ((tried.advance 0).advance 1).callers[1]? = some (.inside none) ∧
      attemptsOf made 0 = [.broken] ∧ attemptsOf made 1 = [.ended (.ok ())] ∧
      attemptsOf made 2 = [] ∧
      final.attempts = [.broken, .ended (.ok ()), .ended (.ok ())] ∧
      ∃ dir subscriber, final.session.global = .service subscriber ∧
        (made.flatMap fun m ↦ m.effect.events) = [initializedEvent .default dir] := by
  intro configs race tried made final
  have hleaving : tried.callers[0]? = some (.leaving .broken) := rfl
  have hwaiting : tried.callers[1]? = some (.waiting none) := rfl
  have hown : attemptsOf made 1 = [.ended (.ok ())] := by decide +kernel +zetaReduce
  obtain ⟨-, -, -, -, -, -, -, hbreak, -⟩ :=
    one_installation_counts Session.start configs [0, 1, 0, 2]
  obtain ⟨hfrom, -, -, -, hservice, -, -, -, -⟩ :=
    one_installation_counts Session.start configs [0, 1, 0, 2, 0, 1, 2, 1, 2, 1, 2]
  obtain ⟨m, hm, hcaller, hok⟩ := mem_attemptsOf.mp (hown ▸ List.mem_singleton_self _)
  have hconfig : m.config = none := by
    have hsecond := (hfrom m hm).config_eq
    rw [hcaller] at hsecond
    exact (Option.some_inj.mp hsecond).symm
  obtain ⟨dir, subscriber, hglobal, -, hevents, -⟩ := hservice m hm hok
  rw [hconfig, Option.getD_none] at hevents
  refine ⟨hleaving, hwaiting, ?_, ?_, hown, ?_, ?_, dir, subscriber, ?_, ?_⟩
  · exact (hbreak 0 hleaving).2 1 none hwaiting
  · decide +kernel +zetaReduce
  · decide +kernel +zetaReduce
  · decide +kernel +zetaReduce
  · -- comparing the sessions themselves would run the race
    rw [show final = (start Session.start configs).run _ from rfl]
    exact hglobal
  · exact hevents

end

end Race

end Session

end MonitorCore

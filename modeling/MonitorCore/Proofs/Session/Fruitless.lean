import MonitorCore.Proofs.Session.Callers
import MonitorCore.Proofs.Session.Records

/-!
# Attempts that come to nothing

An attempt to set up logging that fails or breaks off has gone some way before: a filter may have
been chosen, directories and a log file may have been made. All that is left of it are these files
and, if it failed, the failure that is remembered (`Fruitless`). Nothing is emitted, and nothing
that gets events is in place after it that was not before.

## As if it had not been made

Two things could tell later that there was an attempt. Events could be written where they were
dropped before; but the service's subscriber is not in place as long as no success is remembered
(`Agrees`), so they are dropped with and without the attempt. And later attempts could go another
way. After a failure they do: each of them is given the same failure. After an attempt that broke
off they do not: an installation depends on the files, the variables and the global subscriber only
(`initLogging_eq_renewed`), so the next attempt is like the first one of a process that finds these.

## What happens in a process

Both are said of every state that a process can reach (`Reaches`), by steps and by callers that set
up logging at the same time, with what their attempts come to restricted or not.
-/

namespace MonitorCore

namespace Session

section

variable [Platform] {allowed : Attempt Outcome → Prop} {session next other : Session}
  {config : Option LoggingConfig} {steps : List ScopedStep} {failure : Failure}

/-! ## What a process reaches -/

/-- The process gets from one state to another, by steps, in scopes or not, and by callers that set
up logging at the same time, until nobody is inside. All that the attempts on the way come to is
allowed. -/
inductive Reaches (allowed : Attempt Outcome → Prop) (session : Session) : Session → Prop
  | refl : Reaches allowed session session
  | step {next : Session} (act : ScopedStep) (h : Reaches allowed session next)
      (hallowed : ∀ config, act.step = .init config →
        allowed (next.initLogging config).result) :
      Reaches allowed session (next.stepScoped act).1
  | race {next : Session} (configs : List (Option LoggingConfig)) (schedule : List Nat)
      (h : Reaches allowed session next)
      (hout : ∀ i, ¬((Race.start next configs).run schedule).IsInsideAt i)
      (hallowed : ∀ m ∈ (Race.start next configs).installations schedule, allowed m.attempt) :
      Reaches allowed session ((Race.start next configs).run schedule).session

/-! ## What is left of an attempt -/

/-- What is left of an attempt that installs nothing. -/
inductive Fruitless (session : Session) (effect : Effect (Attempt Outcome)) : Prop
  /-- It broke off, and so have all before it. -/
  | broke (files : FileTree) (hnone : session.outcome = none)
      (heffect : effect = .quiet { session with files := files } .broken)
  /-- It failed, or one before it has. -/
  | failed (files : FileTree) (failure : Failure)
      (hknown : session.outcome ≠ some (.ok ()))
      (heffect : effect = .quiet
        { session with files := files, outcome := some (.error failure) }
        (.ended (.error failure)))

/-- **An attempt that comes to nothing.** -/
theorem fruitless_initLogging (h : (session.initLogging config).result ≠ .ended (.ok ())) :
    Fruitless session (session.initLogging config) := by
  rw [initLogging] at h ⊢
  rcases hknown : session.outcome with _ | (failure | ⟨⟩)
  · rw [hknown] at h
    dsimp only at h ⊢
    rcases tried_install (config.getD .default) session with
      ⟨files, heffect⟩ | ⟨files, failure, heffect⟩ | ⟨dir, files, subscriber, -, -, heffect⟩
    · rw [heffect]
      exact .broke files hknown rfl
    · rw [heffect]
      exact .failed files failure (by simp [hknown]) rfl
    · rw [heffect] at h
      exact absurd rfl h
  · refine .failed session.files failure (by simp [hknown]) ?_
    dsimp only
    rw [← hknown]
  · rw [hknown] at h
    exact absurd rfl h

omit [Platform] in
theorem Fruitless.settle_eq {effect : Effect (Attempt Outcome)} (h : Fruitless session effect)
    (thread : Thread) :
    (effect.settle thread).1 = effect.session ∧ effect.session.global = session.global ∧
      effect.session.console = session.console ∧ session.outcome ≠ some (.ok ()) ∧
      effect.session.outcome ≠ some (.ok ()) := by
  rcases h with ⟨files, hnone, rfl⟩ | ⟨files, failure, hknown, rfl⟩
  · have hnot : session.outcome ≠ some (.ok ()) := by
      rw [hnone]
      exact nofun
    exact ⟨rfl, rfl, rfl, hnot, hnot⟩
  · exact ⟨rfl, rfl, rfl, hknown, nofun⟩

theorem outcome_initLogging_of_failed
    (h : (session.initLogging config).result = .ended (.error failure)) :
    (session.initLogging config).session.outcome = some (.error failure) := by
  rcases fruitless_initLogging (by rw [h]; exact nofun) with
    ⟨files, -, heffect⟩ | ⟨files, failure', -, heffect⟩
  · rw [heffect] at h
    exact absurd h nofun
  · rw [heffect] at h ⊢
    rw [← Except.error.inj (Attempt.ended.inj h)]
    rfl

theorem outcome_initLogging_of_broken (h : (session.initLogging config).result = .broken) :
    (session.initLogging config).session.outcome = none := by
  rcases fruitless_initLogging (by rw [h]; exact nofun) with
    ⟨files, hnone, heffect⟩ | ⟨files, failure', -, heffect⟩
  · rw [heffect]
    exact hnone
  · rw [heffect] at h
    exact absurd h nofun

/-! ## What holds in every state -/

theorem outcome_stepScoped_init {act : ScopedStep} (hact : act.step = .init config) :
    (session.stepScoped act).1.outcome = (session.initLogging config).session.outcome := by
  rw [stepScoped, Effect.outcome_settle, session_performScoped, hact]
  rfl

theorem outcome_stepScoped_of_ne {act : ScopedStep} (h : ∀ config, act.step ≠ .init config) :
    (session.stepScoped act).1.outcome = session.outcome := by
  rw [outcome_stepScoped, outcome_step, setUp?_of_ne h, Option.or_none]

section Race

variable {configs : List (Option LoggingConfig)} {schedule : List Nat}
  (hout : ∀ i, ¬((Race.start session configs).run schedule).IsInsideAt i)

include hout

/-- What there is when callers at the same time have left: nothing new but files, or what the
installation of one of them has left and come to. -/
theorem session_race :
    (∃ files, ((Race.start session configs).run schedule).session =
        { (Race.start session configs).session with files := files }) ∨
      ∃ m ∈ (Race.start session configs).installations schedule, ∃ outcome,
        m.IsFrom (Race.start session configs).session configs ∧ m.attempt = .ended outcome ∧
          ((Race.start session configs).run schedule).session =
            { m.after with outcome := some outcome } := by
  have hinv := Race.invariant_run session configs schedule
  rcases hinv.phase with ⟨-, hsession, -⟩ | ⟨-, m, -, -, -, -, -, -, hinside, -⟩ |
    ⟨earlier, m, outcome, hmade, -, hattempt, hsession, -⟩
  · exact .inl hsession
  · exact absurd hinside (hout m.caller)
  · have hm : m ∈ (Race.start session configs).installations schedule := by
      rw [hmade]
      exact List.mem_append_right _ (List.mem_singleton_self m)
    exact .inr ⟨m, hm, outcome, hinv.isFrom m hm, hattempt, hsession⟩

theorem outcome_race :
    ((Race.start session configs).run schedule).session.outcome = session.outcome ∨
      session.outcome = none ∧ ∃ m ∈ (Race.start session configs).installations schedule,
        ∃ outcome, m.attempt = .ended outcome := by
  rcases session_race hout with ⟨files, hsession⟩ | ⟨m, hm, outcome, hfrom, hattempt, -⟩
  · left
    rw [hsession]
    rfl
  · exact .inr ⟨hfrom.outcome_eq, m, hm, outcome, hattempt⟩

/-- Callers at the same time do not let the two places of logging come apart. -/
theorem Agrees.race (h : Agrees session) :
    Agrees ((Race.start session configs).run schedule).session := by
  rcases session_race hout with ⟨files, hsession⟩ | ⟨m, -, outcome, hfrom, hattempt, hsession⟩
  · rw [hsession]
    exact h
  · obtain ⟨files, hfiles⟩ := hfrom.session_eq
    have hnone : session.outcome = none := hfrom.outcome_eq
    have hafter : m.after.global = m.effect.session.global := Effect.global_settle _ _
    rw [Installation.attempt] at hattempt
    rw [hsession, Agrees]
    dsimp only
    rw [hafter]
    rcases tried_install (m.config.getD .default) m.session with
      ⟨made, heffect⟩ | ⟨made, failure, heffect⟩ | ⟨dir, made, subscriber, -, -, heffect⟩
    · rw [Installation.effect, heffect] at hattempt
      contradiction
    · -- the subscriber would have been there before, and then a success would be remembered
      rw [Installation.effect, heffect] at hattempt ⊢
      rw [← Attempt.ended.inj hattempt]
      constructor
      · rintro ⟨subscriber, hservice⟩
        rw [Effect.quiet, hfiles] at hservice
        rw [h.mp ⟨subscriber, hservice⟩] at hnone
        contradiction
      · intro hok
        simp at hok
    · rw [Installation.effect, heffect] at hattempt ⊢
      rw [← Attempt.ended.inj hattempt]
      exact ⟨fun _ ↦ rfl, fun _ ↦ ⟨subscriber, rfl⟩⟩

end Race

omit [Platform] in
theorem Agrees.not_service (h : Agrees session) (hnot : session.outcome ≠ some (.ok ()))
    (subscriber : Subscriber) : session.global ≠ .service subscriber := by
  intro hservice
  exact hnot (h.mp ⟨subscriber, hservice⟩)

omit [Platform] in
theorem agrees_of_not_service (h : ∀ subscriber, session.global ≠ .service subscriber)
    (hnot : session.outcome ≠ some (.ok ())) : Agrees session := by
  constructor
  · rintro ⟨subscriber, hservice⟩
    exact absurd hservice (h subscriber)
  · intro hok
    exact absurd hok hnot

namespace Reaches

theorem agrees (h : Reaches allowed session next) (hstart : Agrees session) : Agrees next := by
  induction h with
  | refl => exact hstart
  | step act h hallowed ih =>
    have hstep := ih.step act.step
    rwa [Agrees, ← global_stepScoped, ← outcome_stepScoped] at hstep
  | race configs schedule h hout hallowed ih => exact Agrees.race hout ih

theorem outcome_of_some (h : Reaches allowed session next) {outcome : Outcome}
    (hstart : session.outcome = some outcome) : next.outcome = some outcome := by
  induction h with
  | refl => exact hstart
  | step act h hallowed ih => rw [outcome_stepScoped, outcome_step_of_some ih]
  | race configs schedule h hout hallowed ih =>
    rcases outcome_race hout with hsame | ⟨hnone, -⟩
    · rw [hsame, ih]
    · rw [ih] at hnone
      exact absurd hnone nofun

theorem outcome_of_broken (h : Reaches (· = .broken) session next)
    (hstart : session.outcome = none) : next.outcome = none := by
  induction h with
  | refl => exact hstart
  | @step t act h hallowed ih =>
    by_cases hinit : ∃ config, act.step = .init config
    · obtain ⟨config, hact⟩ := hinit
      rw [outcome_stepScoped_init hact]
      exact outcome_initLogging_of_broken (hallowed config hact)
    · push Not at hinit
      rw [outcome_stepScoped_of_ne hinit, ih]
  | race configs schedule h hout hallowed ih =>
    rcases outcome_race hout with hsame | ⟨-, m, hm, outcome, hended⟩
    · rw [hsame, ih]
    · rw [hallowed m hm] at hended
      exact absurd hended nofun

end Reaches

/-! ## Steps between two attempts -/

theorem global_step_congr (h : session.global = other.global) {step : Step}
    (hstep : ∀ config, step ≠ .init config) :
    (session.step step).1.global = (other.step step).1.global := by
  rw [Session.step, Session.step, Effect.global_settle, Effect.global_settle]
  cases step with
  | init config => exact absurd rfl (hstep config)
  | setVariable name value =>
    rw [perform, perform, setVariable, setVariable]
    split <;> exact h
  | unsetVariable name =>
    rw [perform, perform, unsetVariable, unsetVariable]
    split <;> exact h
  | installForeign =>
    rw [perform, perform, installForeign, installForeign, h]
    split
    · rfl
    · exact h
  | _ => exact h

theorem global_runScoped_congr (h : session.global = other.global)
    (hsteps : ∀ act ∈ steps, ∀ config, act.step ≠ .init config) :
    (session.runScoped steps).global = (other.runScoped steps).global := by
  induction steps generalizing session other with
  | nil => exact h
  | cons act steps ih =>
    rw [List.forall_mem_cons] at hsteps
    refine ih ?_ hsteps.2
    rw [global_stepScoped, global_stepScoped]
    exact global_step_congr h hsteps.1

theorem not_installing_of_ne (hsteps : ∀ act ∈ steps, ∀ config, act.step ≠ .init config)
    (i : Nat) : ¬Installing session steps i := by
  rintro ⟨act, hact, config, hinit, -⟩
  exact hsteps act (List.mem_of_getElem? hact) config hinit

def Drops (session : Session) : Prop :=
  ∀ (thread : Thread) (events : List Event), session.recordAll thread events = session

theorem drops_runScoped (h : ∀ subscriber, session.global ≠ .service subscriber)
    (hsteps : ∀ act ∈ steps, ∀ config, act.step ≠ .init config) :
    Drops (session.runScoped steps) ∧ (session.runScoped steps).console = session.console ∧
      ∀ path, Spares path session steps →
        logged (session.runScoped steps).files path = logged session.files path := by
  obtain ⟨hglobal, hconsole, hfiles⟩ := not_service_runScoped h (not_installing_of_ne hsteps)
  refine ⟨?_, hconsole, ?_⟩
  · intro thread events
    exact recordAll_of_not_service hglobal thread events
  · intro path hspares
    exact (hfiles path hspares).logged_eq

/-! ## A process that has made no attempt -/

/-- A session at its start, in a process that finds the files, the variables and the global
subscriber of another session. -/
def renewed (session : Session) : Session :=
  { startIn session.files session.env with global := session.global }

theorem install_eq_renewed (config : LoggingConfig) (session : Session) :
    session.install config =
      { session.renewed.install config with
        session := { (session.renewed.install config).session with
          console := session.console
          outcome := session.outcome
          threads := session.threads } } := by
  have hglobal : session.renewed.global = session.global := rfl
  have hfiles : session.renewed.files = session.files := rfl
  have henv : session.renewed.env = session.env := rfl
  rw [install, install, hglobal, hfiles, henv]
  -- from here on both sides go through the same cases
  rcases config.fileOutputDir with failure | dir
  · rfl
  · dsimp only
    rcases chooseFilter session.env config.level with (failure | filter) | _
    · rfl
    · dsimp only
      rcases openLogIn session.files config.serviceName dir with ⟨files, _ | logFile⟩
      · rfl
      · dsimp only
        rcases session.global with _ | _ | subscriber
        · rfl
        · rfl
        · rfl
    · rfl

/-- As long as no outcome is remembered, setting up logging is what it would be as the first
attempt. -/
theorem initLogging_renewed (h : session.outcome = none) (config : Option LoggingConfig) :
    let now := session.initLogging config
    let first := session.renewed.initLogging config
    now.result = first.result ∧ now.session.global = first.session.global ∧
      now.session.outcome = first.session.outcome ∧ now.session.files = first.session.files ∧
      now.events = first.events := by
  intro now first
  have hnow : now = { session.install (config.getD .default) with
      session := (session.install (config.getD .default)).session.remember
        (session.install (config.getD .default)).result } := by
    rw [show now = session.initLogging config from rfl, initLogging, h]
  have hfirst : first = { session.renewed.install (config.getD .default) with
      session := (session.renewed.install (config.getD .default)).session.remember
        (session.renewed.install (config.getD .default)).result } := rfl
  have hnone : (session.renewed.install (config.getD .default)).session.outcome = none :=
    outcome_install _ _
  rw [hnow, hfirst, install_eq_renewed]
  dsimp only
  rcases (session.renewed.install (config.getD .default)).result with outcome | _
  · exact ⟨rfl, rfl, rfl, rfl, rfl⟩
  · exact ⟨rfl, rfl, h.trans hnone.symm, rfl, rfl⟩

/-! ## Attempts that come to nothing -/

/-- **An attempt that comes to nothing leaves no trace.** Whatever a process has done before, if
setting up logging in it fails or breaks off, on whatever thread, then

- what gets events is what got them before, nothing is written to the console, the session does not
  count as initialized, and every file stays as it was, but for an empty log file that may be made;
- until the next attempt, whatever steps there are, the global subscriber is the one that there
  would be without the attempt, and events are dropped with and without it, so that the console and
  the log files hold the same;
- after a failure the service's subscriber is never in place, and every attempt is given that
  failure and does nothing;
- after an attempt that breaks off, and any number of further ones that do, the next one has the
  outcome and installs the subscriber that it would as the first one of a process with these files,
  these variables and this global subscriber. -/
theorem fruitless_attempt_leaves_no_trace (files : FileTree) (env : Environment)
    {session : Session} (hreached : Reaches (fun _ ↦ True) (startIn files env) session)
    (config : Option LoggingConfig) (thread : Thread) :
    let attempt := (session.initLogging config).result
    let next := ((session.initLogging config).settle thread).1
    attempt ≠ .ended (.ok ()) →
      (next.global = session.global ∧ next.console = session.console ∧
        next.isInitialized = false ∧ ∀ path, Keeps path session.files next.files) ∧
      (∀ between : List ScopedStep, (∀ act ∈ between, ∀ config, act.step ≠ .init config) →
        let after := next.runScoped between
        let without := session.runScoped between
        after.global = without.global ∧ after.console = without.console ∧
          Drops after ∧ Drops without ∧
          ∀ path, Spares path next between → Spares path session between →
            logged after.files path = logged without.files path) ∧
      (∀ failure, attempt = .ended (.error failure) →
        ∀ last, Reaches (fun _ ↦ True) next last →
          (∀ subscriber, last.global ≠ .service subscriber) ∧
            ∀ config, last.initLogging config = .quiet last (.ended (.error failure))) ∧
      (attempt = .broken → ∀ last, Reaches (· = .broken) next last → ∀ config,
        let now := last.initLogging config
        let first := last.renewed.initLogging config
        now.result = first.result ∧ now.session.global = first.session.global ∧
          now.session.outcome = first.session.outcome ∧
          now.session.files = first.session.files ∧ now.events = first.events) := by
  intro attempt next hfruitless
  have hagrees : Agrees session := hreached.agrees (agrees_startIn files env)
  obtain ⟨hsettle, hglobal, hconsole, hbefore, hafter⟩ :=
    (fruitless_initLogging hfruitless).settle_eq thread
  have hnext : next = (session.initLogging config).session := hsettle
  rw [← hnext] at hglobal hconsole hafter
  -- events were dropped before, so there is nothing that the attempt could have disturbed
  have hvacant : ∀ subscriber, session.global ≠ .service subscriber := hagrees.not_service hbefore
  have hvacant' : ∀ subscriber, next.global ≠ .service subscriber := by
    rw [hglobal]
    exact hvacant
  have hfiles : ∀ path, Keeps path session.files next.files := by
    intro path
    rw [hnext]
    exact files_initLogging config session path
  refine ⟨⟨hglobal, hconsole, ?_, hfiles⟩, ?_, ?_, ?_⟩
  · rw [← Bool.not_eq_true, isInitialized_iff]
    exact hafter
  · intro between hsteps after without
    obtain ⟨hdrops, hprinted, hlogged⟩ := drops_runScoped hvacant' hsteps
    obtain ⟨hdrops', hprinted', hlogged'⟩ := drops_runScoped hvacant hsteps
    refine ⟨global_runScoped_congr hglobal hsteps, ?_, hdrops, hdrops', ?_⟩
    · rw [hprinted, hprinted', hconsole]
    · intro path hspares hspares'
      rw [hlogged path hspares, hlogged' path hspares', (hfiles path).logged_eq]
  · intro failure hfailed last hlast
    have hremembered : next.outcome = some (.error failure) := by
      rw [hnext]
      exact outcome_initLogging_of_failed hfailed
    have hstays := hlast.outcome_of_some hremembered
    constructor
    · refine (hlast.agrees (agrees_of_not_service hvacant' hafter)).not_service ?_
      rw [hstays]
      exact nofun
    · intro config
      rw [initLogging, hstays]
  · intro hbroken last hlast config now first
    have hnone : next.outcome = none := by
      rw [hnext]
      exact outcome_initLogging_of_broken hbroken
    exact initLogging_renewed (hlast.outcome_of_broken hnone) config

end

section

attribute [local instance] Platform.plain

/-- A file is in the way of the log directory, and the attempt breaks off, as does a second one;
with the file removed, the third one gets through, as a first one would. But had the first one
failed instead, for want of a directory, the removal would be of no use. -/
theorem fruitless_attempt_leaves_no_trace_of_blocked :
    let files : FileTree := { entries := [(["logs"], .file (.text ""))] }
    let session := startIn files []
    let config : Option LoggingConfig := some { fileOutput := true, logDir := some "logs" }
    let next := ((session.initLogging config).settle .main).1
    let last := next.runScoped [⟨.init config, false⟩, ⟨.remove "logs", false⟩]
    let lacking : Option LoggingConfig := some { fileOutput := true }
    let failed := ((session.initLogging lacking).settle .main).1
    let failure : Failure := .base "logging.file_output is enabled but logging.log_dir is not set"
    (session.initLogging config).result = .broken ∧ next.isInitialized = false ∧
      Reaches (· = .broken) next last ∧
      (last.initLogging config).result = (last.renewed.initLogging config).result ∧
      (last.initLogging config).result = .ended (.ok ()) ∧
      (session.initLogging lacking).result = .ended (.error failure) ∧
      ((failed.stepScoped ⟨.remove "logs", false⟩).1.initLogging config).result =
        .ended (.error failure) := by
  intro files session config next last lacking failed failure
  have hbroken : (session.initLogging config).result = .broken := by decide +kernel +zetaReduce
  have hfailed : (session.initLogging lacking).result = .ended (.error failure) := rfl
  have hagain : (next.initLogging config).result = .broken := by decide +kernel +zetaReduce
  have hlast : Reaches (· = .broken) next last := by
    refine .step ⟨.remove "logs", false⟩ (.step ⟨.init config, false⟩ .refl ?_) ?_
    · rintro config' hconfig
      rw [← Step.init.inj hconfig]
      exact hagain
    · exact nofun
  have hremoved : Reaches (fun _ ↦ True) failed (failed.stepScoped ⟨.remove "logs", false⟩).1 :=
    .step _ .refl fun _ _ ↦ trivial
  obtain ⟨⟨-, -, hnot, -⟩, -, -, hrenewed⟩ := fruitless_attempt_leaves_no_trace
    files [] .refl config .main (by rw [hbroken]; exact nofun)
  obtain ⟨-, -, hgiven, -⟩ := fruitless_attempt_leaves_no_trace
    files [] .refl lacking .main (by rw [hfailed]; exact nofun)
  refine ⟨hbroken, hnot, hlast, (hrenewed hbroken last hlast config).1, ?_, hfailed, ?_⟩
  · decide +kernel +zetaReduce
  · obtain ⟨-, hanswer⟩ := hgiven failure hfailed _ hremoved
    rw [hanswer config]
    rfl

end

end Session

end MonitorCore

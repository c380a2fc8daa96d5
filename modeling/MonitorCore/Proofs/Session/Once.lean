import MonitorCore.Proofs.Session.Installation
import MonitorCore.Proofs.Session.Run

/-!
# Logging is set up once

In a run, steps that set up logging may stand anywhere, with any configuration, and between them
files, variables and the global subscriber may change. However the run goes, the first of these
steps that comes to its end settles the matter: its outcome is remembered, every later one is
answered with it, and the session counts as initialized if and only if it was a success.

## What ties the places together

Logging lives in two places, the global subscriber and the remembered outcome. `Touched` says once
what a step can do to them. It follows that the two always agree (`Agrees`): the service's
subscriber is in place exactly if a success is remembered. And what is remembered can be read off
the results that the steps gave (`outcome_after`), so the run is described without its states.
-/

namespace MonitorCore

namespace Session

/-- A session at its start, in a process that finds these files and variables. -/
def startIn (files : FileTree) (env : Environment) : Session :=
  { start with files := files, env := env }

section

variable [Platform]

/-! ## Steps -/

/-- The step sets up logging while no outcome is remembered, and its installation gets through. -/
def Installs (session : Session) (step : Step) : Prop :=
  ∃ config, step = .init config ∧ session.outcome = none ∧
    (session.install (config.getD .default)).result = .ended (.ok ())

/-- The outcome of a step that sets up logging, unless it breaks off. -/
def setUp? : Step → Attempt StepResult → Option Outcome
  | .init _, .ended (.init outcome) => some outcome
  | _, _ => none

/-- What a step can do to the two places that logging lives in. -/
inductive Touched (session : Session) (step : Step) (next : Session)
    (result : Attempt StepResult) : Prop
  /-- A step of another kind remembers nothing, and at most lets a foreign subscriber in. -/
  | other (hstep : ∀ config, step ≠ .init config) (houtcome : next.outcome = session.outcome)
      (hglobal : next.global = session.global ∨ next.global = .foreign ∧ session.global = .vacant)
  /-- An outcome is remembered, and given again. -/
  | answered (config : Option LoggingConfig) (outcome : Outcome) (hstep : step = .init config)
      (hknown : session.outcome = some outcome) (hresult : result = .ended (.init outcome))
      (hnext : next = session)
  /-- The installation breaks off. -/
  | broke (config : Option LoggingConfig) (hstep : step = .init config)
      (hnone : session.outcome = none) (hresult : result = .broken)
      (houtcome : next.outcome = none) (hglobal : next.global = session.global)
  /-- The installation fails. -/
  | failed (config : Option LoggingConfig) (failure : Failure) (hstep : step = .init config)
      (hnone : session.outcome = none) (hresult : result = .ended (.init (.error failure)))
      (houtcome : next.outcome = some (.error failure)) (hglobal : next.global = session.global)
  /-- The installation gets through. -/
  | installed (subscriber : Subscriber) (hinstalls : Installs session step)
      (hnone : session.outcome = none) (hresult : result = .ended (.init (.ok ())))
      (houtcome : next.outcome = some (.ok ())) (hglobal : next.global = .service subscriber)

theorem step_init_of_some {session : Session} {outcome : Outcome}
    (h : session.outcome = some outcome) (config : Option LoggingConfig) :
    session.step (.init config) = (session, .ended (.init outcome)) := by
  rw [step, perform, initLogging, h]
  rfl

theorem step_init_of_none {session : Session} (h : session.outcome = none)
    (config : Option LoggingConfig) {effect : Effect (Attempt Outcome)}
    (heffect : session.install (config.getD .default) = effect) :
    session.step (.init config)
      = ((effect.session.remember effect.result).recordAll .main effect.events,
          effect.result.map .init) := by
  rw [step, perform, initLogging, h, ← heffect]
  rfl

theorem broken_or_ended_step_init (session : Session) (config : Option LoggingConfig) :
    (session.step (.init config)).2 = .broken ∨
      ∃ outcome, (session.step (.init config)).2 = .ended (.init outcome) := by
  cases hknown : session.outcome with
  | some outcome =>
    rw [step_init_of_some hknown]
    exact .inr ⟨outcome, rfl⟩
  | none =>
    rw [step_init_of_none hknown config rfl]
    cases (session.install (config.getD .default)).result with
    | broken => exact .inl rfl
    | ended outcome => exact .inr ⟨outcome, rfl⟩

/-- **The step.** -/
theorem touched_step (session : Session) (step : Step) :
    Touched session step (session.step step).1 (session.step step).2 := by
  cases step with
  | init config =>
    cases hknown : session.outcome with
    | some outcome =>
      rw [step_init_of_some hknown]
      exact .answered config outcome rfl hknown rfl rfl
    | none =>
      cases tried_install (config.getD .default) session with
      | broke files heffect =>
        rw [step_init_of_none hknown config heffect]
        exact .broke config rfl hknown rfl hknown rfl
      | failed files failure heffect =>
        rw [step_init_of_none hknown config heffect]
        exact .failed config failure rfl hknown rfl rfl rfl
      | installed dir files subscriber hvacant hbuilt heffect =>
        rw [step_init_of_none hknown config heffect]
        refine .installed subscriber ⟨config, rfl, hknown, by rw [heffect]⟩ hknown rfl ?_ ?_
        · exact outcome_recordAll ..
        · exact global_recordAll ..
  | write file content => exact .other nofun rfl (.inl rfl)
  | makeDirectory dir => exact .other nofun rfl (.inl rfl)
  | remove file => exact .other nofun rfl (.inl rfl)
  | setVariable name value =>
    rw [Session.step, perform, setVariable]
    split
    · exact .other nofun rfl (.inl rfl)
    · exact .other nofun rfl (.inl rfl)
  | unsetVariable name =>
    rw [Session.step, perform, unsetVariable]
    split
    · exact .other nofun rfl (.inl rfl)
    · exact .other nofun rfl (.inl rfl)
  | getVariable name => exact .other nofun rfl (.inl rfl)
  | installForeign =>
    rw [Session.step, perform, installForeign]
    split
    · next hvacant => exact .other nofun rfl (.inr ⟨rfl, hvacant⟩)
    · exact .other nofun rfl (.inl rfl)
  | isInitialized => exact .other nofun rfl (.inl rfl)
  | load path => exact .other nofun (Effect.outcome_settle ..) (.inl (Effect.global_settle ..))
  | log failure => exact .other nofun (Effect.outcome_settle ..) (.inl (Effect.global_settle ..))
  | select analyses series =>
    exact .other nofun (Effect.outcome_settle ..) (.inl (Effect.global_settle ..))

omit [Platform] in
theorem setUp?_of_ne {step : Step} (h : ∀ config, step ≠ .init config)
    (result : Attempt StepResult) : setUp? step result = none := by
  cases step with
  | init config => exact absurd rfl (h config)
  | _ => rfl

/-- What is remembered after a step: what was remembered before, or else the step's own outcome. -/
theorem outcome_step (session : Session) (step : Step) :
    (session.step step).1.outcome = session.outcome.or (setUp? step (session.step step).2) := by
  cases touched_step session step with
  | other hstep houtcome hglobal => rw [houtcome, setUp?_of_ne hstep, Option.or_none]
  | answered config outcome hstep hknown hresult hnext => rw [hnext, hknown, Option.some_or]
  | broke config hstep hnone hresult houtcome hglobal =>
    rw [houtcome, hnone, hresult, hstep]
    rfl
  | failed config failure hstep hnone hresult houtcome hglobal =>
    rw [houtcome, hnone, hresult, hstep]
    rfl
  | installed subscriber hinstalls hnone hresult houtcome hglobal =>
    obtain ⟨config, rfl, -⟩ := hinstalls
    rw [houtcome, hnone, hresult]
    rfl

theorem outcome_step_of_some {session : Session} {outcome : Outcome}
    (h : session.outcome = some outcome) (step : Step) :
    (session.step step).1.outcome = some outcome := by
  rw [outcome_step, h, Option.some_or]

theorem Installs.outcome_step_eq {session : Session} {step : Step} (h : Installs session step) :
    (session.step step).1.outcome = some (.ok ()) := by
  obtain ⟨config, rfl, hnone, hinstall⟩ := h
  rw [step_init_of_none hnone config rfl, outcome_recordAll, hinstall, remember]

/-- The service's subscriber is in place exactly if a success is remembered. -/
def Agrees (session : Session) : Prop :=
  (∃ subscriber, session.global = .service subscriber) ↔ session.outcome = some (.ok ())

omit [Platform] in
theorem agrees_startIn (files : FileTree) (env : Environment) : Agrees (startIn files env) := by
  constructor
  · rintro ⟨subscriber, h⟩
    exact absurd h nofun
  · exact nofun

/-- **The invariant.** No step lets the two places come apart. -/
theorem Agrees.step {session : Session} (h : Agrees session) (step : Step) :
    Agrees (session.step step).1 := by
  rw [Agrees] at h ⊢
  cases touched_step session step with
  | other hstep houtcome hglobal =>
    rw [houtcome, ← h]
    rcases hglobal with hsame | ⟨hforeign, hvacant⟩
    · rw [hsame]
    · rw [hforeign, hvacant]
      exact ⟨fun ⟨_, h⟩ ↦ absurd h nofun, fun ⟨_, h⟩ ↦ absurd h nofun⟩
  | answered config outcome hstep hknown hresult hnext => rw [hnext, h]
  | broke config hstep hnone hresult houtcome hglobal => rw [houtcome, hglobal, h, hnone]
  | failed config failure hstep hnone hresult houtcome hglobal =>
    rw [houtcome, hglobal, h, hnone]
    exact ⟨nofun, nofun⟩
  | installed subscriber hinstalls hnone hresult houtcome hglobal =>
    exact ⟨fun _ ↦ houtcome, fun _ ↦ ⟨subscriber, hglobal⟩⟩

/-! ## Runs -/

/-- The outcome of the first of the steps that sets up logging and does not break off. -/
def firstOutcome? (steps : List Step) (results : List (Attempt StepResult)) : Option Outcome :=
  (List.zipWith setUp? steps results).findSome? id

/-- Step `i` of a run installs the service's subscriber. -/
def InstallsAt (session : Session) (steps : List Step) (i : Nat) : Prop :=
  ∃ step, steps[i]? = some step ∧ Installs (session.after steps i) step

theorem outcome_run (session : Session) (steps : List Step) :
    (session.run steps).1.outcome
      = session.outcome.or (firstOutcome? steps (session.run steps).2) := by
  induction steps generalizing session with
  | nil => rw [run, firstOutcome?, List.zipWith_nil_left, List.findSome?_nil, Option.or_none]
  | cons step steps ih =>
    rw [run_cons, ih, outcome_step, Option.or_assoc, firstOutcome?, firstOutcome?,
      List.zipWith_cons_cons, List.findSome?_cons]
    cases setUp? step (session.step step).2 with
    | none => rfl
    | some outcome => rfl

/-- **What is remembered is the first outcome.** -/
theorem outcome_after (files : FileTree) (env : Environment) (steps : List Step) (i : Nat) :
    ((startIn files env).after steps i).outcome
      = firstOutcome? (steps.take i) (((startIn files env).run steps).2.take i) := by
  rw [after, outcome_run, run_take]
  rfl

variable {session : Session} {steps : List Step} {i j : Nat}

theorem InstallsAt.outcome_after_eq (h : InstallsAt session steps i) (hij : i < j) :
    (session.after steps j).outcome = some (.ok ()) := by
  obtain ⟨step, hstep, hinstalls⟩ := h
  refine after_of_le (P := fun s ↦ s.outcome = some (.ok ()))
    (fun s step hs ↦ outcome_step_of_some hs step) hij ?_
  rw [after_succ hstep]
  exact hinstalls.outcome_step_eq

theorem InstallsAt.unique (hi : InstallsAt session steps i) (hj : InstallsAt session steps j) :
    i = j := by
  -- the later one of two would find a remembered outcome
  have hnot : ∀ {i j}, InstallsAt session steps i → InstallsAt session steps j → ¬i < j := by
    intro i j hi hj hlt
    obtain ⟨step, -, config, -, hnone, -⟩ := hj
    rw [hi.outcome_after_eq hlt] at hnone
    exact absurd hnone nofun
  exact Nat.le_antisymm (Nat.le_of_not_lt (hnot hj hi)) (Nat.le_of_not_lt (hnot hi hj))

theorem exists_installsAt_of_service (hstart : ∀ subscriber, session.global ≠ .service subscriber)
    {subscriber : Subscriber} (h : (session.after steps i).global = .service subscriber) :
    ∃ j < i, InstallsAt session steps j := by
  induction i generalizing subscriber with
  | zero => exact absurd h (hstart subscriber)
  | succ i ih =>
    have hearlier : (session.after steps i).global = .service subscriber →
        ∃ j < i + 1, InstallsAt session steps j := fun hi ↦ by
      obtain ⟨j, hj, hinstalls⟩ := ih hi
      exact ⟨j, Nat.lt_succ_of_lt hj, hinstalls⟩
    cases hi : steps[i]? with
    | none =>
      rw [after_succ_of_none hi] at h
      exact hearlier h
    | some step =>
      rw [after_succ hi] at h
      cases touched_step (session.after steps i) step with
      | other hstep houtcome hglobal =>
        rcases hglobal with hsame | ⟨hforeign, -⟩
        · exact hearlier (hsame.symm.trans h)
        · exact absurd (hforeign.symm.trans h) nofun
      | answered config outcome hstep hknown hresult hnext =>
        rw [hnext] at h
        exact hearlier h
      | broke config hstep hnone hresult houtcome hglobal => exact hearlier (hglobal.symm.trans h)
      | failed config failure hstep hnone hresult houtcome hglobal =>
        exact hearlier (hglobal.symm.trans h)
      | installed subscriber hinstalls hnone hresult houtcome hglobal =>
        exact ⟨i, Nat.lt_succ_self i, step, hi, hinstalls⟩

omit [Platform] in
theorem isInitialized_iff (session : Session) :
    session.isInitialized = true ↔ session.outcome = some (.ok ()) := by
  rw [isInitialized]
  split
  · next h => rw [h]; exact ⟨fun _ ↦ rfl, fun _ ↦ rfl⟩
  · next h => exact ⟨nofun, fun hok ↦ absurd hok (h ())⟩

/-! ## The first outcome -/

/-- **Logging is set up once.** In every run of a process,

- at most one step installs the service's subscriber, and it is in place at a moment exactly if
  some earlier step installed it;
- a step that sets up logging breaks off or has an outcome, and it has the first outcome if there
  was one before it;
- the session counts as initialized at a moment exactly if the first outcome before it is a success,
  a step that asks is told so, and it counts as initialized ever after. -/
theorem first_outcome_stays (files : FileTree) (env : Environment) (steps : List Step) :
    let session := startIn files env
    let results := (session.run steps).2
    let first := fun i ↦ firstOutcome? (steps.take i) (results.take i)
    (∀ i j : Nat, InstallsAt session steps i → InstallsAt session steps j → i = j) ∧
      (∀ i : Nat, (∃ subscriber, (session.after steps i).global = .service subscriber) ↔
        ∃ j < i, InstallsAt session steps j) ∧
      (∀ (i : Nat) (config : Option LoggingConfig), steps[i]? = some (.init config) →
        results[i]? = some .broken ∨ ∃ outcome, results[i]? = some (.ended (.init outcome))) ∧
      (∀ (i : Nat) (config : Option LoggingConfig) (outcome : Outcome),
        steps[i]? = some (.init config) → first i = some outcome →
          results[i]? = some (.ended (.init outcome))) ∧
      (∀ i : Nat, (session.after steps i).isInitialized = true ↔ first i = some (.ok ())) ∧
      (∀ i : Nat, steps[i]? = some .isInitialized →
        results[i]? = some (.ended (.flag (session.after steps i).isInitialized))) ∧
      ∀ i j : Nat, i ≤ j → (session.after steps i).isInitialized = true →
        (session.after steps j).isInitialized = true := by
  intro session results first
  have hfirst : ∀ i, (session.after steps i).outcome = first i := outcome_after files env steps
  have hagrees : ∀ i, Agrees (session.after steps i) := fun i ↦
    after_of_le (fun s step hs ↦ hs.step step) (Nat.zero_le i) (agrees_startIn files env)
  have hresult : ∀ i step, steps[i]? = some step →
      results[i]? = some ((session.after steps i).step step).2 := fun i step hi ↦ by
    rw [getElem?_run, hi, Option.map_some]
  refine ⟨fun i j hi hj ↦ hi.unique hj, fun i ↦ ⟨?_, ?_⟩, fun i config hi ↦ ?_,
    fun i config outcome hi hknown ↦ ?_, fun i ↦ ?_, fun i hi ↦ hresult i _ hi,
    fun i j hij hi ↦ ?_⟩
  · rintro ⟨subscriber, h⟩
    exact exists_installsAt_of_service (fun _ ↦ nofun) h
  · rintro ⟨j, hj, hinstalls⟩
    exact (hagrees i).mpr (hinstalls.outcome_after_eq hj)
  · rw [hresult i _ hi]
    rcases broken_or_ended_step_init (session.after steps i) config with hbroken | ⟨outcome, hended⟩
    · exact .inl (by rw [hbroken])
    · exact .inr ⟨outcome, by rw [hended]⟩
  · rw [hresult i _ hi, step_init_of_some ((hfirst i).trans hknown)]
  · rw [isInitialized_iff, hfirst]
  · rw [isInitialized_iff] at hi ⊢
    exact after_of_le (P := fun s ↦ s.outcome = some (.ok ()))
      (fun s step hs ↦ outcome_step_of_some hs step) hij hi

end

section

attribute [local instance] Platform.plain

/-- An installation that breaks off settles nothing: the one after it gets through, and its success
is the outcome even of a configuration that could not be installed. -/
theorem first_outcome_stays_after_break :
    let session := startIn {} []
    let steps : List Step :=
      [.init (some { level := " é=info" }), .init none, .init (some { fileOutput := true }),
        .isInitialized]
    let results := (session.run steps).2
    results[0]? = some .broken ∧ InstallsAt session steps 1 ∧
      firstOutcome? (steps.take 2) (results.take 2) = some (.ok ()) ∧
      results[2]? = some (.ended (.init (.ok ()))) ∧
      (∃ subscriber, (session.after steps 2).global = .service subscriber) ∧
      (session.after steps 3).isInitialized = true := by
  intro session steps results
  obtain ⟨-, hservice, -, hanswer, hinitialized, -, hlater⟩ := first_outcome_stays {} [] steps
  have hinstalls : InstallsAt session steps 1 := ⟨.init none, rfl, none, rfl, rfl, rfl⟩
  have hfirst : firstOutcome? (steps.take 2) (results.take 2) = some (.ok ()) := rfl
  exact ⟨rfl, hinstalls, hfirst, hanswer 2 _ _ rfl hfirst,
    (hservice 2).mpr ⟨1, Nat.lt_succ_self 1, hinstalls⟩,
    hlater 2 3 (Nat.le_succ 2) ((hinitialized 2).mpr hfirst)⟩

end

end Session

end MonitorCore

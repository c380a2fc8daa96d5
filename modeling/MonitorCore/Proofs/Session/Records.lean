import MonitorCore.Proofs.Logging.Record
import MonitorCore.Proofs.Session.Recording

/-!
# What a session writes

Only one subscriber of the service ever gets into place, and it stays. So the records of a session
are told by the step that installs it: from there on, each event that is handed to the subscriber
and that its filter enables is written once, to the console and to the log file, and no other event
is.

A run has two parts. Up to the installation nothing is in place that writes, whatever the steps do
(`not_service_runScoped`). From the installation on the subscriber is the same before and after each
step, so the records of a run are those of the events of all its steps, one after the other
(`console_runScoped`, `content?_runScoped`). Variables, `.env` files and further configurations are
of no account, since no law of these mentions them.

What a record holds is said apart from how it is written: an object with the fields of the event
(`Event.InJson`), or a line with them in words (`Event.InText`).
-/

namespace MonitorCore

namespace Session

section

variable [Platform] {session : Session} {subscriber : Subscriber} {steps : List ScopedStep}
  {act : ScopedStep} {path : Path} {i j : Nat}

/-! ## Moments of a run -/

def moment (session : Session) (steps : List ScopedStep) (i : Nat) : Session :=
  session.runScoped (steps.take i)

/-- Step `i` installs the service's subscriber. -/
def Installing (session : Session) (steps : List ScopedStep) (i : Nat) : Prop :=
  ∃ act, steps[i]? = some act ∧ Installs (session.moment steps i) act.step

/-- No step writes or removes the file at a path. -/
def Spares (path : Path) : Session → List ScopedStep → Prop
  | _, [] => True
  | session, act :: steps =>
    act.step.file? session.files ≠ some path ∧ Spares path (session.stepScoped act).1 steps

theorem runScoped_cons (session : Session) (act : ScopedStep) (steps : List ScopedStep) :
    session.runScoped (act :: steps) = (session.stepScoped act).1.runScoped steps := rfl

theorem handed_cons (session : Session) (act : ScopedStep) (steps : List ScopedStep) :
    session.handed (act :: steps) =
      (session.performScoped act).events ++ (session.stepScoped act).1.handed steps := rfl

theorem spares_append {steps more : List ScopedStep} :
    Spares path session (steps ++ more) ↔
      Spares path session steps ∧ Spares path (session.runScoped steps) more := by
  induction steps generalizing session with
  | nil => exact ⟨fun h ↦ ⟨trivial, h⟩, fun h ↦ h.2⟩
  | cons act steps ih => rw [List.cons_append, Spares, ih, Spares, runScoped_cons, and_assoc]

theorem outcome_runScoped_of_some {outcome : Outcome} (h : session.outcome = some outcome)
    (steps : List ScopedStep) : (session.runScoped steps).outcome = some outcome := by
  induction steps generalizing session with
  | nil => exact h
  | cons act steps ih =>
    refine ih ?_
    rw [outcome_stepScoped, outcome_step_of_some h]

theorem moment_succ (h : steps[i]? = some act) :
    session.moment steps (i + 1) = ((session.moment steps i).stepScoped act).1 := by
  rw [moment, List.take_add_one, h, Option.toList_some, runScoped_append]
  rfl

theorem moment_of_le (session : Session) (steps : List ScopedStep) (hij : i ≤ j) :
    session.moment steps j = (session.moment steps i).runScoped ((steps.take j).drop i) := by
  rw [moment, moment, ← runScoped_append]
  congr 1
  rw [← Nat.min_eq_left hij, ← List.take_take, Nat.min_eq_left hij, List.take_append_drop]

theorem runScoped_eq_moment (session : Session) (steps : List ScopedStep) (i : Nat) :
    session.runScoped steps = (session.moment steps i).runScoped (steps.drop i) := by
  rw [moment, ← runScoped_append, List.take_append_drop]

theorem outcome_moment_of_le {outcome : Outcome} (hij : i ≤ j)
    (h : (session.moment steps i).outcome = some outcome) :
    (session.moment steps j).outcome = some outcome := by
  rw [moment_of_le session steps hij]
  exact outcome_runScoped_of_some h _

theorem Installing.outcome_eq (h : Installing session steps i) (hij : i < j) :
    (session.moment steps j).outcome = some (.ok ()) := by
  obtain ⟨act, hact, hinstalls⟩ := h
  refine outcome_moment_of_le hij ?_
  rw [moment_succ hact, outcome_stepScoped, hinstalls.outcome_step_eq]

theorem Installing.not_of_lt (h : Installing session steps j) (hij : i < j) :
    ¬Installing session steps i := by
  intro hi
  obtain ⟨act, -, -, -, hnone, -⟩ := h
  rw [hi.outcome_eq hij] at hnone
  exact absurd hnone nofun

/-- Once a failure is remembered, no step of the run installs, neither before nor after. -/
theorem not_installing_of_error {failure : Failure}
    (h : (session.moment steps i).outcome = some (.error failure)) (j : Nat) :
    ¬Installing session steps j := by
  intro hj
  rcases Nat.lt_or_ge j i with hlt | hle
  · rw [hj.outcome_eq hlt] at h
    exact absurd h nofun
  · obtain ⟨act, -, -, -, hnone, -⟩ := hj
    rw [outcome_moment_of_le hle h] at hnone
    exact absurd hnone nofun

/-! ## Before the installation -/

/-- **Nothing is in place.** Without an installation nothing is written. -/
theorem not_service_runScoped (h : ∀ subscriber, session.global ≠ .service subscriber)
    (hnever : ∀ i, ¬Installing session steps i) :
    (∀ subscriber, (session.runScoped steps).global ≠ .service subscriber) ∧
      (session.runScoped steps).console = session.console ∧
      ∀ path, Spares path session steps →
        Keeps path session.files (session.runScoped steps).files := by
  induction steps generalizing session with
  | nil => exact ⟨h, rfl, fun path _ ↦ .refl path session.files⟩
  | cons act steps ih =>
    have hnot : ¬Installs session act.step := fun hinstalls ↦ hnever 0 ⟨act, rfl, hinstalls⟩
    have hafter := global_stepScoped_ne_service h hnot
    have hlater : ∀ i, ¬Installing (session.stepScoped act).1 steps i := fun i hi ↦
      hnever (i + 1) hi
    obtain ⟨hglobal, hconsole, hfiles⟩ := ih hafter hlater
    have hstep := stepScoped_of_not_service hafter
    refine ⟨hglobal, ?_, fun path hspares ↦ ?_⟩
    · rw [runScoped_cons, hconsole, hstep, console_perform]
    · have hkeeps := hfiles path hspares.2
      rw [hstep] at hkeeps
      refine (keeps_perform hspares.1).trans ?_
      rw [runScoped_cons, hstep]
      exact hkeeps

/-! ## From the installation on -/

theorem global_runScoped (h : session.global = .service subscriber) (steps : List ScopedStep) :
    (session.runScoped steps).global = .service subscriber := by
  induction steps generalizing session with
  | nil => exact h
  | cons act steps ih => exact ih (global_stepScoped_of_service h act)

/-- **The console.** It gets the records of the enabled events in order. -/
theorem console_runScoped (h : session.global = .service subscriber) (steps : List ScopedStep) :
    (session.runScoped steps).console = session.console ++
      ((session.handed steps).filter subscriber.filter.enables).map
        (consoleRecord subscriber .main) := by
  induction steps generalizing session with
  | nil => rw [runScoped, handed, List.filter_nil, List.map_nil, List.append_nil]
  | cons act steps ih =>
    have hafter := global_stepScoped_of_service h act
    rw [runScoped_cons, ih hafter, console_stepScoped hafter, handed_cons, List.filter_append,
      List.map_append, List.append_assoc]

/-- **The log file.** It gets the records of the same events. -/
theorem content?_runScoped (h : session.global = .service subscriber)
    (hlog : subscriber.logFile = some path) (hspares : Spares path session steps)
    {records : List String} (hcontent : session.files.content? path = some (.log records)) :
    (session.runScoped steps).files.content? path = some (.log (records ++
      ((session.handed steps).filter subscriber.filter.enables).map Event.fileLine)) := by
  induction steps generalizing session records with
  | nil => rw [runScoped, handed, List.filter_nil, List.map_nil, List.append_nil, hcontent]
  | cons act steps ih =>
    have hafter := global_stepScoped_of_service h act
    have hkept := (keeps_perform hspares.1).content_eq hcontent
    have hstep := content?_stepScoped hafter path
    rw [if_pos hlog, hkept, Option.map_some, Content.withRecords] at hstep
    rw [runScoped_cons, ih hafter hspares.2 hstep, handed_cons, List.filter_append,
      List.map_append, List.append_assoc]

theorem keeps_runScoped (h : session.global = .service subscriber)
    (hlog : subscriber.logFile ≠ some path) (hspares : Spares path session steps) :
    Keeps path session.files (session.runScoped steps).files := by
  induction steps generalizing session with
  | nil => exact .refl path session.files
  | cons act steps ih =>
    have hafter := global_stepScoped_of_service h act
    have hstep := content?_stepScoped hafter path
    rw [if_neg hlog] at hstep
    exact ((keeps_perform hspares.1).trans (.of_eq hstep)).trans (ih hafter hspares.2)

/-! ## The whole session -/

section Installation

variable (h : (session.stepScoped act).1.global = .service subscriber)

include h

/-- The records from the step on that puts the subscriber into place. -/
theorem console_from_installation (steps : List ScopedStep) :
    (session.runScoped (act :: steps)).console = session.console ++
      ((session.handed (act :: steps)).filter subscriber.filter.enables).map
        (consoleRecord subscriber .main) := by
  rw [runScoped_cons, console_runScoped h, console_stepScoped h, handed_cons, List.filter_append,
    List.map_append, List.append_assoc]

theorem content?_from_installation (hlog : subscriber.logFile = some path)
    (hspares : Spares path session (act :: steps)) {records : List String}
    (hcontent : (session.perform act.step).session.files.content? path = some (.log records)) :
    (session.runScoped (act :: steps)).files.content? path = some (.log (records ++
      ((session.handed (act :: steps)).filter subscriber.filter.enables).map Event.fileLine)) := by
  have hstep := content?_stepScoped h path
  rw [if_pos hlog, hcontent, Option.map_some, Content.withRecords] at hstep
  rw [runScoped_cons, content?_runScoped h hlog hspares.2 hstep, handed_cons, List.filter_append,
    List.map_append, List.append_assoc]

theorem keeps_from_installation (hlog : subscriber.logFile ≠ some path)
    (hspares : Spares path session (act :: steps)) :
    Keeps path session.files (session.runScoped (act :: steps)).files := by
  have hstep := content?_stepScoped h path
  rw [if_neg hlog] at hstep
  exact ((keeps_perform hspares.1).trans (.of_eq hstep)).trans (keeps_runScoped h hlog hspares.2)

end Installation

theorem Installing.of_take (h : Installing session (steps.take i) j) :
    j < i ∧ Installing session steps j := by
  obtain ⟨act, hact, hinstalls⟩ := h
  rw [List.getElem?_take] at hact
  split at hact
  · next hlt =>
    refine ⟨hlt, act, hact, ?_⟩
    rwa [moment, List.take_take, Nat.min_eq_left (Nat.le_of_lt hlt)] at hinstalls
  · exact absurd hact nofun

/-- **What a session writes.** Steps of any kind, in scopes or not, in a process that finds any
files and variables:

- if no step installs the service's subscriber, nothing is written to the console or to a log file;
  and after a first outcome that is a failure none does;
- if step `i` installs it, it is the subscriber that the configuration of this step asks for among
  the variables and files of that moment, and it is in place ever after;
- the console then has one record for each of the events that are handed to it from step `i` on and
  that its filter enables, in their order, and nothing else; the first of the events tells of the
  installation;
- these records are in JSON if the configuration asks for JSON, and otherwise in text, and from each
  of them its event can be told;
- there is a log file if file output is configured, and the same events are recorded in it, in text,
  behind what it held at the start, unless a step writes or removes the file itself;
- no other log file gets a record. -/
theorem written_from_installation (files : FileTree) (env : Environment)
    (steps : List ScopedStep) :
    let session := startIn files env
    let final := session.runScoped steps
    ((∀ i, ¬Installing session steps i) →
      final.console = [] ∧
        ∀ path, Spares path session steps → logged final.files path = logged files path) ∧
    (∀ i failure, (session.moment steps i).outcome = some (.error failure) →
      ∀ j, ¬Installing session steps j) ∧
    ∀ i, Installing session steps i → ∃ act config dir subscriber,
      let found := session.moment steps i
      let events := found.handed (steps.drop i)
      let written := events.filter subscriber.filter.enables
      steps[i]? = some act ∧ act.step = .init config ∧
        subscriber.BuiltFrom (config.getD .default) found.env found.files dir ∧
        (∀ j, i < j → (session.moment steps j).global = .service subscriber) ∧
        events =
          (if act.captured then [] else [initializedEvent (config.getD .default) dir]) ++
            (session.moment steps (i + 1)).handed (steps.drop (i + 1)) ∧
        final.console = written.map (fun event ↦
          if (config.getD .default).jsonFormat then event.jsonLine
          else event.consoleLine .main) ∧
        (∀ event ∈ written,
          if (config.getD .default).jsonFormat then event.InJson event.jsonLine
          else event.InText "main ThreadId(01) " (event.consoleLine .main)) ∧
        subscriber.logFile.isSome = (config.getD .default).fileOutput ∧
        (∀ path, subscriber.logFile = some path → Spares path session steps →
          (∀ content, files.content? path = some content → ∃ records, content = .log records) →
            final.files.content? path =
              some (.log (logged files path ++ written.map Event.fileLine))) ∧
        (∀ event ∈ written, event.InText "" event.fileLine) ∧
        ∀ path, subscriber.logFile ≠ some path → Spares path session steps →
          logged final.files path = logged files path := by
  intro session final
  have hvacant : ∀ subscriber, session.global ≠ .service subscriber := fun _ ↦ nofun
  refine ⟨fun hnever ↦ ?_, fun i failure hfailed ↦ not_installing_of_error hfailed,
    fun i hi ↦ ?_⟩
  · obtain ⟨-, hconsole, hfiles⟩ := not_service_runScoped hvacant hnever
    exact ⟨hconsole, fun path hspares ↦ (hfiles path hspares).logged_eq⟩
  · have hearlier : ∀ j, ¬Installing session (steps.take i) j := fun j hj ↦
      hi.not_of_lt hj.of_take.1 hj.of_take.2
    obtain ⟨-, hconsole, hfiles⟩ := not_service_runScoped hvacant hearlier
    obtain ⟨act, hact, hinstalls⟩ := hi
    obtain ⟨config, dir, made, subscriber, hstep, -, hbuilt, hthere, heffect⟩ :=
      hinstalls.perform_eq
    have hafter : ((session.moment steps i).stepScoped act).1.global = .service subscriber := by
      rw [global_stepScoped, step, Effect.global_settle, heffect]
    have hdrop : steps.drop i = act :: steps.drop (i + 1) := by
      obtain ⟨hlt, rfl⟩ := List.getElem?_eq_some_iff.mp hact
      exact List.drop_eq_getElem_cons hlt
    have hfinal : final = (session.moment steps i).runScoped (act :: steps.drop (i + 1)) := by
      rw [← hdrop]
      exact runScoped_eq_moment session steps i
    have hspared : ∀ path, Spares path session steps → Spares path session (steps.take i) ∧
        Spares path (session.moment steps i) (act :: steps.drop (i + 1)) := fun path hspares ↦ by
      rwa [← hdrop, moment, ← spares_append, List.take_append_drop]
    refine ⟨act, config, dir, subscriber, hact, hstep, hbuilt, fun j hj ↦ ?_, ?_, ?_,
      fun event _ ↦ ?_, hbuilt.isSome_logFile, fun path hlog hspares hbefore ↦ ?_,
      fun event _ ↦ event.inText_textLine "", fun path hlog hspares ↦ ?_⟩
    · rw [moment_of_le session steps (Nat.succ_le_of_lt hj), moment_succ hact]
      exact global_runScoped hafter _
    · rw [hdrop, handed_cons, events_performScoped, heffect, moment_succ hact]
    · rw [hfinal, hdrop, console_from_installation hafter, ← hbuilt.jsonFormat_eq]
      exact congrArg (· ++ _) hconsole
    · split
      · exact event.inJson_jsonLine
      · exact event.inText_textLine _
    · obtain ⟨hfirst, hlater⟩ := hspared path hspares
      have hkeeps := (hfiles path hfirst).trans (keeps_perform hlater.1)
      rw [← moment, heffect] at hkeeps
      have hcontent := hkeeps.content_eq_logged hbefore (hthere path hlog)
      rw [hfinal, hdrop]
      exact content?_from_installation hafter hlog hlater (by rw [heffect]; exact hcontent)
    · obtain ⟨hfirst, hlater⟩ := hspared path hspares
      rw [hfinal]
      exact ((hfiles path hfirst).trans (keeps_from_installation hafter hlog hlater)).logged_eq

end

section

attribute [local instance] Platform.plain

/-- A log file in a directory that the session makes. Before the installation a failure is reported;
after it, another file is written, the level is changed in the environment and in a further
configuration, a selection is captured, and a failure is reported. -/
theorem written_from_installation_despite_changes :
    let session := startIn {} []
    let path : Path := ["logs", "geomon-core.log.DATE"]
    let steps : List ScopedStep :=
      [⟨.log (.base "early"), false⟩,
        ⟨.init (some { fileOutput := true, logDir := some "logs", jsonFormat := false }), false⟩,
        ⟨.write "logs/other" (.text ""), false⟩, ⟨.setVariable "RUST_LOG" "off", false⟩,
        ⟨.init (some { level := "off" }), false⟩, ⟨.select [⟨1, "a", 2⟩] [], true⟩,
        ⟨.log (.base "late"), false⟩]
    let final := session.runScoped steps
    let events := (session.moment steps 1).handed (steps.drop 1)
    Installing session steps 1 ∧ Spares path session steps ∧
      ∃ subscriber : Subscriber, subscriber.logFile = some path ∧
        final.console = (events.filter subscriber.filter.enables).map (Event.consoleLine .main) ∧
        final.files.content? path =
          some (.log ((events.filter subscriber.filter.enables).map Event.fileLine)) := by
  intro session path steps final events
  have hinstalling : Installing session steps 1 := ⟨_, rfl, _, rfl, rfl, rfl⟩
  have hspares : Spares path session steps := by
    refine ⟨nofun, nofun, ?_, nofun, nofun, nofun, nofun, trivial⟩
    decide +kernel
  obtain ⟨-, -, hwritten⟩ := written_from_installation {} [] steps
  obtain ⟨act, config, dir, subscriber, hact, hstep, hbuilt, -, -, hconsole, -, -, hfile, -, -⟩ :=
    hwritten 1 hinstalling
  obtain rfl := Option.some_inj.mp hact
  obtain rfl := Step.init.inj hstep
  obtain rfl : some "logs" = dir := Except.ok.inj hbuilt.dir_eq
  have hlog : subscriber.logFile = some path := by
    rw [← Option.some_inj, ← hbuilt.logFile_eq]
    decide +kernel
  exact ⟨hinstalling, hspares, subscriber, hlog, hconsole, hfile path hlog hspares nofun⟩

end

end Session

end MonitorCore

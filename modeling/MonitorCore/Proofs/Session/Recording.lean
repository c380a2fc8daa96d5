import MonitorCore.Proofs.Session.LogFile
import MonitorCore.Proofs.Session.Once
import MonitorCore.Session.Scope

/-!
# Recording events

What the service's subscriber does with the events that it is handed: each that its filter enables
is written once, to the console and, if there is one, to the log file, in the order of the events
(`console_recordAll`, `content?_recordAll`). Any other global subscriber, and none, leaves no
record.

A step changes the console by its records only, and the subscriber that was in place stays
(`global_stepScoped_of_service`). So a step that the subscriber is in place after adds exactly the
records of its own events, and every other step adds none.
-/

namespace MonitorCore

/-- The content of a log file after further records; other files take none. -/
def Content.withRecords (records : List String) : Content → Content
  | .log earlier => .log (earlier ++ records)
  | content => content

namespace Session

variable {session next : Session} {subscriber : Subscriber} {steps : List ScopedStep}
  {act : ScopedStep} {path : Path}

/-! ## Recording -/

theorem recordAll_of_not_service (h : ∀ subscriber, session.global ≠ .service subscriber)
    (thread : Thread) (events : List Event) : session.recordAll thread events = session := by
  induction events with
  | nil => rfl
  | cons event events ih =>
    have hone : session.record thread event = session := by
      rw [record]
      split
      · next subscriber hservice => exact absurd hservice (h subscriber)
      · rfl
    rw [recordAll_cons, hone, ih]

theorem global_record (session : Session) (thread : Thread) (event : Event) :
    (session.record thread event).global = session.global :=
  global_recordAll thread [event] session

theorem console_recordAll (h : session.global = .service subscriber) (thread : Thread)
    (events : List Event) :
    (session.recordAll thread events).console = session.console ++
      (events.filter subscriber.filter.enables).map (consoleRecord subscriber thread) := by
  induction events generalizing session with
  | nil => rw [recordAll_nil, List.filter_nil, List.map_nil, List.append_nil]
  | cons event events ih =>
    have hnext : (session.record thread event).global = .service subscriber := by
      rw [global_record, h]
    rw [recordAll_cons, ih hnext, console_record h, List.filter_cons]
    split
    · rw [List.map_cons, List.append_assoc, List.singleton_append]
    · rw [List.append_nil]

theorem content?_appendRecord (file : Path) (record : String) (files : FileTree) (path : Path) :
    (appendRecord file record files).content? path =
      if file = path then (files.content? path).map (Content.withRecords [record])
      else files.content? path := by
  rw [appendRecord]
  split
  · next records hlog =>
    have hfile : files.at? file ≠ some .directory := FileTree.at?_of_content? hlog ▸ nofun
    split
    · next hsame => rw [← hsame, FileTree.content?_put_file hfile, hlog]; rfl
    · next hne => exact FileTree.content?_put_of_ne hne _ _
  · next hother =>
    split
    · next hsame =>
      subst hsame
      cases hcontent : files.content? file with
      | none => rfl
      | some content =>
        cases content with
        | log records => exact absurd hcontent (hother records)
        | text s => rfl
        | bytes data => rfl
    · rfl

theorem withRecords_withRecords (records more : List String) (content : Content) :
    (content.withRecords records).withRecords more = content.withRecords (records ++ more) := by
  cases content with
  | log earlier => rw [Content.withRecords, Content.withRecords, Content.withRecords,
      List.append_assoc]
  | text s => rfl
  | bytes data => rfl

theorem withRecords_nil (content : Content) : content.withRecords [] = content := by
  cases content with
  | log earlier => rw [Content.withRecords, List.append_nil]
  | text s => rfl
  | bytes data => rfl

theorem map_withRecords_nil (content : Option Content) :
    content.map (Content.withRecords []) = content := by
  rw [funext withRecords_nil, Option.map_id']

theorem content?_record (h : session.global = .service subscriber) (thread : Thread)
    (event : Event) (path : Path) :
    (session.record thread event).files.content? path =
      if subscriber.logFile = some path then
        (session.files.content? path).map (Content.withRecords
          (if subscriber.filter.enables event then [event.fileLine] else []))
      else session.files.content? path := by
  rw [record, h]
  dsimp only
  split
  · rw [logEvent]
    cases hlog : subscriber.logFile with
    | none => simp
    | some file =>
      simp only [content?_appendRecord, Option.some_inj]
  · rw [map_withRecords_nil, ite_self]

theorem content?_recordAll (h : session.global = .service subscriber) (thread : Thread)
    (events : List Event) (path : Path) :
    (session.recordAll thread events).files.content? path =
      if subscriber.logFile = some path then
        (session.files.content? path).map
          (Content.withRecords ((events.filter subscriber.filter.enables).map Event.fileLine))
      else session.files.content? path := by
  induction events generalizing session with
  | nil => rw [recordAll_nil, List.filter_nil, List.map_nil, map_withRecords_nil, ite_self]
  | cons event events ih =>
    have hnext : (session.record thread event).global = .service subscriber := by
      rw [global_record, h]
    rw [recordAll_cons, ih hnext, content?_record h]
    split
    · rw [Option.map_map]
      congr 1
      funext content
      rw [Function.comp_apply, withRecords_withRecords, List.filter_cons]
      split <;> rfl
    · rfl

/-! ## One step -/

variable [Platform]

theorem console_perform (session : Session) (step : Step) :
    (session.perform step).session.console = session.console := by
  cases step with
  | init config =>
    rw [perform, initLogging]
    split
    · rfl
    · rw [Effect.map]
      cases tried_install (config.getD .default) session with
      | broke files heffect => rw [heffect]; rfl
      | failed files failure heffect => rw [heffect]; rfl
      | installed dir files subscriber hvacant hbuilt heffect => rw [heffect]; rfl
  | setVariable name value =>
    rw [perform, setVariable]
    split <;> rfl
  | unsetVariable name =>
    rw [perform, unsetVariable]
    split <;> rfl
  | installForeign =>
    rw [perform, installForeign]
    split <;> rfl
  | write file content => rfl
  | makeDirectory dir => rfl
  | remove file => rfl
  | getVariable name => rfl
  | isInitialized => rfl
  | load order path => rfl
  | log failure => rfl
  | select analyses series => rfl

/-- What an installation that gets through does, and what it emits. -/
theorem Installs.perform_eq {step : Step} (h : Installs session step) :
    ∃ config dir files subscriber, step = .init config ∧ session.global = .vacant ∧
      subscriber.BuiltFrom (config.getD .default) session.env session.files dir ∧
      (∀ path, subscriber.logFile = some path → ∃ content, files.content? path = some content) ∧
      session.perform step =
        { session := { session with
            files := files, global := .service subscriber, outcome := some (.ok ()) }
          result := .ended (.init (.ok ()))
          events := [initializedEvent (config.getD .default) dir] } := by
  obtain ⟨config, rfl, hnone, hresult⟩ := h
  cases tried_install (config.getD .default) session with
  | broke files heffect =>
    rw [heffect] at hresult
    exact absurd hresult nofun
  | failed files failure heffect =>
    rw [heffect] at hresult
    exact absurd hresult nofun
  | installed dir files subscriber hvacant hbuilt heffect =>
    refine ⟨config, dir, files, subscriber, rfl, hvacant, hbuilt, fun path hlog ↦ ?_, ?_⟩
    · have hcontent := content_install hbuilt hresult hlog
      rwa [heffect] at hcontent
    · rw [perform, initLogging, hnone]
      dsimp only
      rw [heffect]
      rfl

theorem global_stepScoped_of_service (h : session.global = .service subscriber)
    (act : ScopedStep) : (session.stepScoped act).1.global = .service subscriber := by
  rw [global_stepScoped]
  cases touched_step session act.step with
  | other hstep houtcome hglobal =>
    rcases hglobal with hsame | ⟨-, hvacant⟩
    · rw [hsame, h]
    · rw [h] at hvacant
      exact absurd hvacant nofun
  | answered config outcome hstep hknown hresult hnext => rw [hnext, h]
  | broke config hstep hnone hresult houtcome hglobal => rw [hglobal, h]
  | failed config failure hstep hnone hresult houtcome hglobal => rw [hglobal, h]
  | installed other hinstalls hnone hresult houtcome hglobal =>
    obtain ⟨-, -, -, -, -, hvacant, -⟩ := hinstalls.perform_eq
    rw [h] at hvacant
    exact absurd hvacant nofun

theorem global_stepScoped_ne_service (h : ∀ subscriber, session.global ≠ .service subscriber)
    (hnot : ¬Installs session act.step) (subscriber : Subscriber) :
    (session.stepScoped act).1.global ≠ .service subscriber := by
  rw [global_stepScoped]
  cases touched_step session act.step with
  | other hstep houtcome hglobal =>
    rcases hglobal with hsame | ⟨hforeign, -⟩
    · rw [hsame]
      exact h subscriber
    · rw [hforeign]
      exact nofun
  | answered config outcome hstep hknown hresult hnext => rw [hnext]; exact h subscriber
  | broke config hstep hnone hresult houtcome hglobal => rw [hglobal]; exact h subscriber
  | failed config failure hstep hnone hresult houtcome hglobal => rw [hglobal]; exact h subscriber
  | installed other hinstalls hnone hresult houtcome hglobal => exact absurd hinstalls hnot

theorem console_stepScoped (h : (session.stepScoped act).1.global = .service subscriber) :
    (session.stepScoped act).1.console = session.console ++
      ((session.performScoped act).events.filter subscriber.filter.enables).map
        (consoleRecord subscriber .main) := by
  rw [stepScoped_fst, global_recordAll] at h
  rw [stepScoped_fst, console_recordAll h, console_perform]

theorem content?_stepScoped (h : (session.stepScoped act).1.global = .service subscriber)
    (path : Path) :
    (session.stepScoped act).1.files.content? path =
      if subscriber.logFile = some path then
        ((session.perform act.step).session.files.content? path).map (Content.withRecords
          (((session.performScoped act).events.filter subscriber.filter.enables).map
            Event.fileLine))
      else (session.perform act.step).session.files.content? path := by
  rw [stepScoped_fst, global_recordAll] at h
  rw [stepScoped_fst, content?_recordAll h]

theorem stepScoped_of_not_service
    (h : ∀ subscriber, (session.stepScoped act).1.global ≠ .service subscriber) :
    (session.stepScoped act).1 = (session.perform act.step).session := by
  rw [stepScoped_fst] at h ⊢
  refine recordAll_of_not_service (fun subscriber ↦ ?_) _ _
  have hafter := h subscriber
  rwa [global_recordAll] at hafter

end Session

end MonitorCore

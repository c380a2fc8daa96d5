import MonitorCore.Proofs.Logging.JsonLine
import MonitorCore.Proofs.Session.Fruitless

/-!
# Failures on a JSON console

Once logging is set up with a JSON console it stays so, whatever steps and races follow
(`Reaches.global_of_service`). Each report of a failure that the filter lets through is then one
line on the console, and the others are none. No text in the failure can break its line in two or
put members of its own into it, since the line is read as the object that was written.
-/

namespace MonitorCore

open Json (parse readText)
open Text (KeyMap)

namespace Session

variable [Platform] {allowed : Attempt Outcome → Prop} {session next before after : Session}
  {subscriber : Subscriber} {config : Option LoggingConfig}

/-! ## The subscriber stays -/

theorem global_install_of_service (h : session.global = .service subscriber)
    (config : LoggingConfig) : (session.install config).session.global = .service subscriber := by
  cases tried_install config session with
  | broke files heffect => rw [heffect]; exact h
  | failed files failure heffect => rw [heffect]; exact h
  | installed dir files other hvacant hbuilt heffect =>
    rw [h] at hvacant
    exact absurd hvacant nofun

theorem global_race_of_service (h : session.global = .service subscriber)
    {configs : List (Option LoggingConfig)} {schedule : List Nat}
    (hout : ∀ i, ¬((Race.start session configs).run schedule).IsInsideAt i) :
    ((Race.start session configs).run schedule).session.global = .service subscriber := by
  rcases session_race hout with ⟨files, hsession⟩ | ⟨m, -, outcome, hfrom, -, hsession⟩
  · rw [hsession]
    exact h
  · obtain ⟨files, hfiles⟩ := hfrom.session_eq
    have hbase : m.session.global = .service subscriber := by
      rw [hfiles]
      exact h
    rw [hsession]
    exact (Effect.global_settle m.thread m.effect).trans (global_install_of_service hbase _)

/-- **The service's subscriber** stays as long as the process runs. -/
theorem Reaches.global_of_service (h : Reaches allowed session next)
    (hservice : session.global = .service subscriber) : next.global = .service subscriber := by
  induction h with
  | refl => exact hservice
  | step act h hallowed ih => exact global_stepScoped_of_service ih act
  | race configs schedule h hout hallowed ih => exact global_race_of_service ih hout

/-! ## Setting up -/

/-- Logging is set up with this configuration, by a step or by one of several callers at the same
time. -/
inductive SetsUp (config : Option LoggingConfig) (before : Session) : Session → Prop
  | step (act : ScopedStep) (hact : act.step = .init config) (h : Installs before act.step) :
    SetsUp config before (before.stepScoped act).1
  | race (configs : List (Option LoggingConfig)) (schedule : List Nat) (m : Installation)
      (hm : m ∈ (Race.start before configs).installations schedule) (hconfig : m.config = config)
      (hok : m.attempt = .ended (.ok ())) :
    SetsUp config before ((Race.start before configs).run schedule).session

theorem SetsUp.exists_subscriber (h : SetsUp config before after) :
    ∃ subscriber, after.global = .service subscriber ∧
      subscriber.jsonFormat = (config.getD .default).jsonFormat ∧
      chooseFilter before.env (config.getD .default).level = .ended (.ok subscriber.filter) := by
  cases h with
  | step act hact hinstalls =>
    obtain ⟨config', dir, files, subscriber, hinit, -, hbuilt, -, heffect⟩ := hinstalls.perform_eq
    obtain rfl : config' = config := Step.init.inj (hinit.symm.trans hact)
    refine ⟨subscriber, ?_, hbuilt.jsonFormat_eq, hbuilt.filter_eq⟩
    rw [stepScoped_fst, global_recordAll, heffect]
  | race configs schedule m hm hconfig hok =>
    obtain ⟨dir, subscriber, hglobal, hbuilt, -⟩ :=
      (Race.invariant_run before configs schedule).of_ok hm hok
    rw [hconfig] at hbuilt
    exact ⟨subscriber, hglobal, hbuilt.jsonFormat_eq, hbuilt.filter_eq⟩

/-! ## What is printed -/

/-- What the process has printed: the records of the console, each in a line. -/
def printed (session : Session) : String := String.join (session.console.map (· ++ "\n"))

theorem printed_step_log (h : session.global = .service subscriber) (failure : Failure) :
    (session.step (.log failure)).1.printed = session.printed ++
      if subscriber.filter.enables failure.event then
        consoleRecord subscriber .main failure.event ++ "\n" else "" := by
  have hconsole : (session.step (.log failure)).1.console = session.console ++
      if subscriber.filter.enables failure.event then
        [consoleRecord subscriber .main failure.event] else [] :=
    console_record h .main failure.event
  rw [printed, printed, hconsole, List.map_append, String.join_append]
  split <;> simp

end Session

namespace Failure

variable {failure : Failure}

theorem countsFit_event (h : failure.records.length < Decimal.wordLimit) :
    failure.event.CountsFit := by
  cases failure with
  | simple kind message => simp [Event.CountsFit, Event.fields, event, fieldMap?]
  | validation kind message records =>
    simpa [Event.CountsFit, Event.fields, event, fieldMap?] using h

/-- The last `message` in the line of a failure is the failure's own. -/
theorem get?_message_members (failure : Failure) :
    KeyMap.get? "message" (KeyMap.ofList failure.event.members) =
      some (.text failure.message) := by
  rw [KeyMap.get?_ofList]
  cases failure <;>
    simp [Event.members, Event.fields, event, fieldMap?, KeyMap.get?_cons, FieldValue.inJson]

end Failure

namespace Session

section

variable [Platform]

/-- **A failure on a JSON console.** Once logging is set up with a JSON console, and whatever
happened since, a report of a failure prints one line if the filter that was chosen then enables its
event, and nothing otherwise. The line has no control character, and so no line end. It is read as
an object that has the fields of the event in order and with their values; and of its members with
the key `message`, the last one is the failure's own message. For this the number of records has to
fit in a machine word, as that of a list in memory does. -/
theorem json_console_line {before after session : Session} {config : Option LoggingConfig}
    (hset : SetsUp config before after) (hjson : (config.getD .default).jsonFormat = true)
    (hlater : Reaches (fun _ ↦ True) after session) :
    ∃ filter, chooseFilter before.env (config.getD .default).level = .ended (.ok filter) ∧
      ∀ failure : Failure, (session.step (.log failure)).2 = .ended .done ∧
        (filter.enables failure.event = false →
          (session.step (.log failure)).1.printed = session.printed) ∧
        (filter.enables failure.event = true → ∃ line : String,
          (session.step (.log failure)).1.printed = session.printed ++ line ++ "\n" ∧
          (∀ c ∈ line.toList, 0x20 ≤ c.toNat) ∧
          (failure.records.length < Decimal.wordLimit →
            (∃ members, readText line.toList = some (.object members) ∧
              failure.event.fields.map (fun field ↦ (field.1, field.2.inJson)) <:+: members) ∧
            ∃ kept, parse line = some (.object kept) ∧
              KeyMap.get? "message" kept = some (.text failure.message))) := by
  obtain ⟨subscriber, hservice, hformat, hfilter⟩ := hset.exists_subscriber
  have hstill : session.global = .service subscriber := hlater.global_of_service hservice
  refine ⟨subscriber.filter, hfilter, fun failure ↦ ?_⟩
  have hprinted := printed_step_log hstill failure
  refine ⟨rfl, fun hoff ↦ ?_, fun hon ↦ ⟨failure.event.jsonLine, ?_, ?_, fun hcount ↦ ?_⟩⟩
  · simpa [hoff] using hprinted
  · rw [hprinted, if_pos hon, consoleRecord, hformat, if_pos hjson, String.append_assoc]
  · exact failure.event.visible_jsonLine
  · have hfit := Failure.countsFit_event hcount
    exact ⟨⟨_, Event.readText_jsonLine hfit, failure.event.fieldMembers_infix⟩,
      _, Event.parse_jsonLine hfit, failure.get?_message_members⟩

end

section

attribute [local instance] Platform.plain

/-- A message that would end its line and begin another one, with a level of its own, is read as a
message; so are a path and a message of a record with quotation marks and braces. -/
theorem json_console_line_of_forged :
    let before := startIn {} []
    let config : Option LoggingConfig := some { jsonFormat := true }
    let session := (before.stepScoped ⟨.init config, false⟩).1
    let failure : Failure :=
      .validation .user "\"\x7d\n\x7b\"level\":\"INFO\",\"message\":\"fine\"\x7d"
        [⟨"a\":\"b", "required", "\x7d\n"⟩]
    SetsUp config before session ∧ ∃ line : String,
      (session.step (.log failure)).1.printed = session.printed ++ line ++ "\n" ∧
      '\n' ∉ line.toList ∧ ∃ kept, parse line = some (.object kept) ∧
        KeyMap.get? "message" kept = some (.text failure.message) := by
  intro before config session failure
  have hset : SetsUp config before session :=
    .step ⟨.init config, false⟩ rfl ⟨config, rfl, rfl, by decide +kernel +zetaReduce⟩
  obtain ⟨filter, hfilter, hlines⟩ := json_console_line hset rfl .refl
  have hchosen : ((chooseFilter before.env (config.getD .default).level).map fun chosen ↦
      chosen.toOption.any fun filter ↦ filter.enables failure.event) = .ended true := by
    decide +kernel +zetaReduce
  rw [hfilter] at hchosen
  have henabled : filter.enables failure.event = true := Attempt.ended.inj hchosen
  obtain ⟨-, -, hon⟩ := hlines failure
  obtain ⟨line, hprinted, hvisible, hread⟩ := hon henabled
  refine ⟨hset, line, hprinted, fun hmem ↦ absurd (hvisible _ hmem) (by decide), ?_⟩
  exact (hread (by decide)).2

end

end Session

end MonitorCore

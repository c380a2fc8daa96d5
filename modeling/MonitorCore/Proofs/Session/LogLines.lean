import MonitorCore.Proofs.Host.Lines
import MonitorCore.Proofs.Logging.TextLine
import MonitorCore.Proofs.Session.JsonConsole
import MonitorCore.Proofs.Session.Leftover

/-!
# Failures in a log file

A log file is made or found when logging is set up, and from then on it only grows, unless a step
writes or removes it (`Continues`). What a report of a failure adds to it are the lines of one text
line. The format of the console is of no account.

The text line has the line ends of the message, so a failure whose message has several lines takes
several lines of the file, and what the further ones look like is up to the message. It may be
derived from several records, a line for each. Everything else in the failure is quoted, and adds no
line.
-/

namespace MonitorCore

open Content (logText textLines)
open FileTree (walk)
open Json (Visible)
open Text (lineEnds)

/-- Where the log file of a service is that writes to a directory. -/
def logFileIn (files : FileTree) (dir service : String) : Path :=
  walk (files.start (Session.logPath dir service)) (pathNames (Session.logPath dir service))

theorem Subscriber.BuiltFrom.logFile_eq_logFileIn [Platform] {config : LoggingConfig}
    {env : Environment} {files : FileTree} {dir : Option String} {subscriber : Subscriber}
    (h : subscriber.BuiltFrom config env files dir) (hfile : config.fileOutput = true) :
    ∃ name, config.logDir = some name ∧
      subscriber.logFile = some (logFileIn files name config.serviceName) := by
  have hsome := h.isSome_logFile
  rw [hfile] at hsome
  obtain ⟨path, hpath⟩ := Option.isSome_iff_exists.mp hsome
  have hopen := h.logFile_eq
  rw [hpath] at hopen ⊢
  cases dir with
  | none => exact absurd (Option.some_inj.mp hopen) nofun
  | some name =>
    rw [Session.openLogIn_some, Option.map_eq_some_iff] at hopen
    obtain ⟨opened, hopened, heq⟩ := hopen
    obtain ⟨hwalk, -⟩ := Session.adds_of_openLog hopened
    refine ⟨name, (LoggingConfig.fileOutput_of_fileOutputDir h.dir_eq).2, ?_⟩
    rw [← heq, hwalk, logFileIn]

namespace Session

variable {session next before after : Session} {subscriber : Subscriber} {path : Path}
  {files made last : FileTree} {config : Option LoggingConfig}

/-! ## A log file that grows -/

def HasLog (path : Path) (files : FileTree) : Prop :=
  ∃ records, files.content? path = some (.log records)

/-- The lines of the log file at a path; none if there is no log file. -/
def logLines (files : FileTree) (path : Path) : List String :=
  textLines (logText (logged files path))

/-- What is at the path stays, with further records if it is a log file; or a log file has come to
be where there was nothing. -/
def Continues (path : Path) (files next : FileTree) : Prop :=
  (∃ more, next.content? path = (files.content? path).map (Content.withRecords more)) ∨
    files.content? path = none ∧ HasLog path next

namespace Continues

theorem of_keeps (h : Keeps path files made) : Continues path files made := by
  rcases h with hsame | ⟨hnone, hmade⟩
  · exact .inl ⟨[], by rw [hsame, map_withRecords_nil]⟩
  · exact .inr ⟨hnone, [], hmade⟩

theorem refl (path : Path) (files : FileTree) : Continues path files files :=
  of_keeps (.refl path files)

theorem hasLog (h : Continues path files made) (hlog : HasLog path files) : HasLog path made := by
  obtain ⟨records, hrecords⟩ := hlog
  rcases h with ⟨more, hmore⟩ | ⟨-, hmade⟩
  · exact ⟨records ++ more, by rw [hmore, hrecords]; rfl⟩
  · exact hmade

theorem trans (h : Continues path files made) (h' : Continues path made last) :
    Continues path files last := by
  rcases h with ⟨more, hmore⟩ | ⟨hnone, hmade⟩
  · rcases h' with ⟨more', hmore'⟩ | ⟨hnone', hlast⟩
    · refine .inl ⟨more ++ more', ?_⟩
      rw [hmore', hmore, Option.map_map]
      congr 1
      exact funext fun content ↦ withRecords_withRecords more more' content
    · rw [hmore, Option.map_eq_none_iff] at hnone'
      exact .inr ⟨hnone', hlast⟩
  · exact .inr ⟨hnone, h'.hasLog hmade⟩

theorem exists_content (h : Continues path files made)
    (hthere : ∃ content, files.content? path = some content) :
    ∃ content, made.content? path = some content := by
  obtain ⟨content, hcontent⟩ := hthere
  rcases h with ⟨more, hmore⟩ | ⟨hnone, -⟩
  · exact ⟨content.withRecords more, by rw [hmore, hcontent]; rfl⟩
  · rw [hcontent] at hnone
    exact absurd hnone nofun

theorem hasLog_of_exists (h : Continues path files made)
    (hbefore : ∀ content, files.content? path = some content → ∃ records, content = .log records)
    (hthere : ∃ content, made.content? path = some content) : HasLog path made := by
  cases hcontent : files.content? path with
  | some content =>
    obtain ⟨records, rfl⟩ := hbefore content hcontent
    exact h.hasLog ⟨records, hcontent⟩
  | none =>
    obtain ⟨content, hcontent'⟩ := hthere
    rcases h with ⟨more, hmore⟩ | ⟨-, hmade⟩
    · rw [hcontent, hcontent'] at hmore
      exact absurd hmore nofun
    · exact hmade

end Continues

theorem continues_recordAll (session : Session) (thread : Thread) (events : List Event)
    (path : Path) : Continues path session.files (session.recordAll thread events).files := by
  by_cases hservice : ∃ subscriber, session.global = .service subscriber
  · obtain ⟨subscriber, hglobal⟩ := hservice
    have hcontent := content?_recordAll hglobal thread events path
    split at hcontent
    · exact .inl ⟨_, hcontent⟩
    · exact .of_keeps (.of_eq hcontent)
  · rw [recordAll_of_not_service (fun subscriber h ↦ hservice ⟨subscriber, h⟩)]
    exact .refl path session.files

section

variable [Platform]

theorem continues_stepScoped {act : ScopedStep} (h : act.step.file? session.files ≠ some path) :
    Continues path session.files (session.stepScoped act).1.files := by
  rw [stepScoped_fst]
  exact (Continues.of_keeps (keeps_perform h)).trans (continues_recordAll _ _ _ path)

theorem continues_install (config : LoggingConfig) (session : Session) (thread : Thread)
    (path : Path) :
    Continues path session.files ((session.install config).settle thread).1.files :=
  (Continues.of_keeps (keeps_install config session path)).trans (continues_recordAll _ _ _ path)

theorem continues_advance (race : Race) (i : Nat) (path : Path) :
    Continues path race.session.files (race.advance i).session.files := by
  cases race.moved_advance i with
  | absent hcaller hnext => rw [hnext]; exact .refl ..
  | stays attempt hcaller hnext => rw [hnext]; exact .refl ..
  | waits config hcaller hnone hbusy hnext => rw [hnext]; exact .refl ..
  | answered config outcome hcaller hknown hnext => rw [hnext]; exact .refl ..
  | enters config hcaller hnone hfree hnext => rw [hnext]; exact .refl ..
  | tries config effect hcaller heffect hnext =>
    rw [hnext, ← heffect]
    exact continues_install (config.getD .default) race.session (race.thread i) path
  | leaves attempt hcaller hnext =>
    rw [hnext, Race.put, files_remember]
    exact .refl ..

theorem continues_race (race : Race) (schedule : List Nat) (path : Path) :
    Continues path race.session.files (race.run schedule).session.files := by
  induction schedule generalizing race with
  | nil => exact .refl ..
  | cons i schedule ih => exact (continues_advance race i path).trans (ih _)

/-- The process gets from one state to another, by steps, in scopes or not, that do not write or
remove the file at a path, and by callers that set up logging at the same time. -/
inductive ReachesSparing (path : Path) (session : Session) : Session → Prop
  | refl : ReachesSparing path session session
  | step {next : Session} (act : ScopedStep) (h : ReachesSparing path session next)
      (hspares : act.step.file? next.files ≠ some path) :
      ReachesSparing path session (next.stepScoped act).1
  | race {next : Session} (configs : List (Option LoggingConfig)) (schedule : List Nat)
      (h : ReachesSparing path session next)
      (hout : ∀ i, ¬((Race.start next configs).run schedule).IsInsideAt i) :
      ReachesSparing path session ((Race.start next configs).run schedule).session

/-- **A log file** that no step writes or removes only grows. -/
theorem ReachesSparing.continues (h : ReachesSparing path session next) :
    Continues path session.files next.files := by
  induction h with
  | refl => exact .refl ..
  | step act h hspares ih => exact ih.trans (continues_stepScoped hspares)
  | race configs schedule h hout ih => exact ih.trans (continues_race _ schedule path)

theorem ReachesSparing.reaches (h : ReachesSparing path session next) :
    Reaches (fun _ ↦ True) session next := by
  induction h with
  | refl => exact .refl
  | step act h hspares ih => exact .step act ih fun _ _ ↦ trivial
  | race configs schedule h hout ih => exact .race configs schedule ih hout fun _ _ ↦ trivial

/-! ## The working directory -/

omit [Platform] in
theorem workDir_openLog (files : FileTree) (text : String) :
    (openLog files text).1.workDir = files.workDir := by
  have hmade := FileTree.workDir_makeDirectories files (files.start text) (pathNames text).dropLast
  rw [openLog]
  split
  · rfl
  · split
    · next heq =>
      rw [heq] at hmade
      exact hmade
    · next heq =>
      rw [heq] at hmade
      split
      · exact hmade
      · next hopened =>
        exact (adds_of_openAt (openAt_of_openShown hopened)).workDir_eq.trans hmade

theorem workDir_install (config : LoggingConfig) (session : Session) :
    (session.install config).session.files.workDir = session.files.workDir := by
  rcases files_install config session with ⟨hsame, -⟩ | ⟨dir, -, hopen⟩
  · rw [hsame]
  · rw [hopen]
    cases dir with
    | none => rfl
    | some dir =>
      rw [openLogIn_some]
      exact workDir_openLog ..

omit [Platform] in
theorem workDir_record (session : Session) (thread : Thread) (event : Event) :
    (session.record thread event).files.workDir = session.files.workDir := by
  rw [record]
  split
  · split
    · dsimp only
      rw [logEvent]
      split
      · rfl
      · rw [appendRecord]
        split <;> rfl
    · rfl
  · rfl

omit [Platform] in
theorem workDir_recordAll (session : Session) (thread : Thread) (events : List Event) :
    (session.recordAll thread events).files.workDir = session.files.workDir := by
  induction events generalizing session with
  | nil => rfl
  | cons event events ih => rw [recordAll_cons, ih, workDir_record]

theorem workDir_settle (session : Session) (config : LoggingConfig) (thread : Thread) :
    ((session.install config).settle thread).1.files.workDir = session.files.workDir := by
  rw [Effect.settle, workDir_recordAll, workDir_install]

theorem workDir_advance (race : Race) (i : Nat) :
    (race.advance i).session.files.workDir = race.session.files.workDir := by
  cases race.moved_advance i with
  | absent hcaller hnext => rw [hnext]
  | stays attempt hcaller hnext => rw [hnext]
  | waits config hcaller hnone hbusy hnext => rw [hnext]
  | answered config outcome hcaller hknown hnext => rw [hnext]; rfl
  | enters config hcaller hnone hfree hnext => rw [hnext]; rfl
  | tries config effect hcaller heffect hnext =>
    rw [hnext, ← heffect]
    exact workDir_settle ..
  | leaves attempt hcaller hnext =>
    rw [hnext, Race.put, files_remember]

theorem workDir_of_mem_installations {race : Race} {schedule : List Nat} {m : Installation}
    (h : m ∈ race.installations schedule) :
    m.session.files.workDir = race.session.files.workDir := by
  induction schedule generalizing race with
  | nil => exact absurd h List.not_mem_nil
  | cons i schedule ih =>
    rcases List.mem_append.mp h with hfirst | hlater
    · rw [Option.mem_toList, Race.installation?] at hfirst
      split at hfirst
      · rw [← Option.some_inj.mp hfirst]
      · simp at hfirst
    · rw [ih hlater, workDir_advance]

/-! ## Setting up -/

theorem SetsUp.continues (h : SetsUp config before after) (path : Path) :
    Continues path before.files after.files := by
  cases h with
  | step act hact h =>
    refine continues_stepScoped ?_
    rw [hact]
    exact nofun
  | race configs schedule m hm hconfig hok =>
    exact continues_race (Race.start before configs) schedule path

/-- With output to a file, the subscriber in force has the filter that was asked for and writes to
the log file in the directory that was asked for, and the file is there. -/
theorem SetsUp.exists_logFile (h : SetsUp config before after)
    (hfile : (config.getD .default).fileOutput = true) :
    ∃ subscriber dir path, after.global = .service subscriber ∧
      chooseFilter before.env (config.getD .default).level = .ended (.ok subscriber.filter) ∧
      (config.getD .default).logDir = some dir ∧
      path = logFileIn before.files dir (config.getD .default).serviceName ∧
      subscriber.logFile = some path ∧
      ∃ content, after.files.content? path = some content := by
  cases h with
  | step act hact hinstalls =>
    obtain ⟨config', dir, files, subscriber, hinit, -, hbuilt, hthere, heffect⟩ :=
      hinstalls.perform_eq
    obtain rfl : config' = config := Step.init.inj (hinit.symm.trans hact)
    obtain ⟨name, hname, hlog⟩ := hbuilt.logFile_eq_logFileIn hfile
    refine ⟨subscriber, name, _, ?_, hbuilt.filter_eq, hname, rfl, hlog, ?_⟩
    · rw [stepScoped_fst, global_recordAll, heffect]
    · rw [stepScoped_fst, heffect]
      exact (continues_recordAll _ _ _ _).exists_content (hthere _ hlog)
  | race configs schedule m hm hconfig hok =>
    subst hconfig
    have hinv := Race.invariant_run before configs schedule
    obtain ⟨dir, subscriber, hglobal, hbuilt, -⟩ := hinv.of_ok hm hok
    obtain ⟨-, ⟨remembered, hsession⟩, -⟩ := hinv.phase.of_ended hm hok
    obtain ⟨name, hname, hlog⟩ := hbuilt.logFile_eq_logFileIn hfile
    have hfound : subscriber.BuiltFrom (m.config.getD .default) m.session.env m.session.files
        dir := by
      obtain ⟨files, hfiles⟩ := (hinv.isFrom m hm).session_eq
      rw [hfiles] at hbuilt ⊢
      exact hbuilt
    have hthere := content_install hfound hok hlog
    have hwhere : logFileIn m.session.files name (m.config.getD .default).serviceName =
        logFileIn before.files name (m.config.getD .default).serviceName := by
      rw [logFileIn, FileTree.start_congr (workDir_of_mem_installations hm)]
      rfl
    refine ⟨subscriber, name, _, hglobal, hbuilt.filter_eq, hname, hwhere, hlog, ?_⟩
    rw [hsession]
    exact (continues_recordAll _ _ _ _).exists_content hthere

/-! ## Reports -/

theorem step_log_eq_record (session : Session) (failure : Failure) :
    (session.step (.log failure)).1 = session.record .main failure.event := rfl

theorem step_log_of_not_enabled (h : session.global = .service subscriber) {failure : Failure}
    (hoff : subscriber.filter.enables failure.event = false) :
    (session.step (.log failure)).1 = session := by
  rw [step_log_eq_record, record, h]
  simp [hoff]

theorem logLines_step_log (h : session.global = .service subscriber)
    (hlog : subscriber.logFile = some path) (hthere : HasLog path session.files)
    {failure : Failure} (hon : subscriber.filter.enables failure.event = true) :
    logLines (session.step (.log failure)).1.files path =
      logLines session.files path ++ textLines (failure.event.fileLine ++ "\n") := by
  obtain ⟨records, hrecords⟩ := hthere
  have hcontent := content?_record h .main failure.event path
  rw [if_pos hlog, if_pos hon, hrecords, Option.map_some, Content.withRecords] at hcontent
  rw [step_log_eq_record, logLines, logLines, logged, logged, hcontent, hrecords]
  exact Content.textLines_logText_append records failure.event.fileLine

/-- **A failure in a log file.** Once logging is set up with output to a file, and whatever the
format of the console is,

- there is a log file in the directory that was asked for, and it stays as long as no step writes or
  removes it, unless the process found a file there that was no log;
- whenever it is there, and whatever else happened since, a report of a failure changes no file if
  the filter that was chosen does not let its event through; otherwise it leaves the lines of the
  log file as they are and adds those of the event's text line behind them;
- this line is the message between two parts without control characters, of which the first one
  tells the time, the level and the source, so that one line is added, and one more for each line
  end in the message, with nothing else in the failure adding any;
- a message that is derived from records has one line end less than records, besides those in their
  rules and messages. -/
theorem failure_in_log_file {before after : Session} {config : Option LoggingConfig}
    (hset : SetsUp config before after) (hfile : (config.getD .default).fileOutput = true) :
    ∃ filter dir path,
      chooseFilter before.env (config.getD .default).level = .ended (.ok filter) ∧
      (config.getD .default).logDir = some dir ∧
      path = logFileIn before.files dir (config.getD .default).serviceName ∧
      ((∀ content, before.files.content? path = some content → ∃ records, content = .log records) →
        ∀ session, ReachesSparing path after session → HasLog path session.files) ∧
      ∀ session, Reaches (fun _ ↦ True) after session → HasLog path session.files →
        ∀ failure : Failure,
          let next := (session.step (.log failure)).1
          (session.step (.log failure)).2 = .ended .done ∧
          (filter.enables failure.event = false → next.files = session.files) ∧
          (filter.enables failure.event = true → HasLog path next.files ∧ ∃ first rest,
            logLines next.files path =
              logLines session.files path ++ (failure.lineHead ++ first) :: rest ∧
            textLines (messageText failure.message ++ failure.lineTail ++ "\n") = first :: rest ∧
            rest.length = lineEnds failure.message) ∧
          Visible failure.lineHead.toList ∧ Visible failure.lineTail.toList ∧
          ∀ kind given records, failure = .ofRecords kind given records →
            given = none ∨ given = some "" → records ≠ [] →
              lineEnds failure.message + 1 = (records.map fun record ↦
                lineEnds record.rule + lineEnds record.message + 1).sum := by
  obtain ⟨subscriber, dir, path, hservice, hfilter, hdir, hpath, hlog, hthere⟩ :=
    hset.exists_logFile hfile
  refine ⟨subscriber.filter, dir, path, hfilter, hdir, hpath, fun hbefore session hsparing ↦ ?_,
    fun session hlater hhas failure ↦ ?_⟩
  · have hmade : HasLog path after.files := (hset.continues path).hasLog_of_exists hbefore hthere
    exact hsparing.continues.hasLog hmade
  · have hstill : session.global = .service subscriber := hlater.global_of_service hservice
    refine ⟨rfl, fun hoff ↦ ?_, fun hon ↦ ⟨?_, ?_⟩, failure.visible_lineHead,
      failure.visible_lineTail, ?_⟩
    · rw [step_log_of_not_enabled hstill hoff]
    · exact (continues_recordAll session .main [failure.event] path).hasLog hhas
    · obtain ⟨first, rest, hlines, hlength, hline⟩ := failure.exists_textLines_fileLine
      refine ⟨first, rest, ?_, hlines, hlength⟩
      rw [logLines_step_log hstill hlog hhas hon, hline]
    · rintro kind given records rfl hgiven hne
      rw [Failure.message_ofRecords_of_empty hgiven]
      exact Failure.lineEnds_derivedMessage_add_one hne

end

section

attribute [local instance] Platform.plain

/-- With a JSON console, after a change of the environment, and with another file written. Texts of
a record that hold line ends and the beginning of a line make one line, as long as the message has
no line end; two records without a message make two lines. -/
theorem failure_in_log_file_of_odd_texts :
    let before := startIn {} []
    let config : Option LoggingConfig :=
      some { fileOutput := true, logDir := some "logs", jsonFormat := true }
    let path : Path := ["logs", "geomon-core.log.DATE"]
    let after := (before.stepScoped ⟨.init config, false⟩).1
    let session := after.runScoped
      [⟨.setVariable "RUST_LOG" "off", false⟩, ⟨.write "logs/other" (.text ""), false⟩]
    let odd : List ErrorRecord :=
      [⟨"name\nTIME ERROR", "unique\n", "\"\x7d\r\nTIME  INFO target: fine"⟩]
    let failure : Failure := .ofRecords .user (some "bad\tinput\x1b\r") odd
    let twofold : Failure := .ofRecords .user none [⟨"a\n", "b", "c"⟩, ⟨"a\n", "d", "e"⟩]
    SetsUp config before after ∧ ReachesSparing path after session ∧ HasLog path session.files ∧
      (∃ line, logLines (session.step (.log failure)).1.files path =
        logLines session.files path ++ [line]) ∧
      ∃ first second, logLines (session.step (.log twofold)).1.files path =
        logLines session.files path ++ [first, second] := by
  intro before config path after session odd failure twofold
  have hset : SetsUp config before after :=
    .step ⟨.init config, false⟩ rfl ⟨config, rfl, rfl, by decide +kernel +zetaReduce⟩
  obtain ⟨filter, dir, path', hfilter, hdir, hpath, hstays, hadds⟩ := failure_in_log_file hset rfl
  obtain rfl : "logs" = dir := Option.some_inj.mp hdir
  have hwhere : logFileIn before.files "logs" "geomon-core" = path := by decide +kernel +zetaReduce
  obtain rfl : path' = path := hpath.trans hwhere
  have hsparing : ReachesSparing path after session :=
    .step _ (.step _ .refl nofun) (by decide +kernel +zetaReduce)
  have hhas : HasLog path session.files := hstays nofun session hsparing
  have hchosen : ((chooseFilter before.env (config.getD .default).level).map fun chosen ↦
      chosen.toOption.any fun filter ↦
        filter.enables failure.event && filter.enables twofold.event) = .ended true := by
    decide +kernel +zetaReduce
  rw [hfilter] at hchosen
  have henabled : (filter.enables failure.event && filter.enables twofold.event) = true :=
    Attempt.ended.inj hchosen
  rw [Bool.and_eq_true] at henabled
  obtain ⟨-, -, hfailure, -, -, -⟩ := hadds session hsparing.reaches hhas failure
  obtain ⟨-, -, htwofold, -, -, hderived⟩ := hadds session hsparing.reaches hhas twofold
  obtain ⟨-, first, rest, hone, -, hnone⟩ := hfailure henabled.1
  obtain ⟨-, first', rest', htwo, -, hsingle⟩ := htwofold henabled.2
  have hends : lineEnds twofold.message + 1 = 2 := hderived .user none _ rfl (.inl rfl) nofun
  refine ⟨hset, hsparing, hhas, ⟨failure.lineHead ++ first, ?_⟩, ?_⟩
  · have hrest : rest = [] := List.length_eq_zero_iff.mp (hnone.trans (by decide))
    rw [hone, hrest]
  · obtain ⟨second, rfl⟩ : ∃ second, rest' = [second] :=
      List.length_eq_one_iff.mp (hsingle.trans (Nat.succ_inj.mp hends))
    exact ⟨_, second, htwo⟩

/-- **A failure can take several lines.** With a line end in its message, one failure adds what two
others would; two records without a message add two lines. And a log file that was removed gets no
line. -/
theorem failure_takes_several_lines :
    let config : Option LoggingConfig := some { fileOutput := true, logDir := some "l" }
    let session := (start.stepScoped ⟨.init config, false⟩).1
    let path : Path := ["l", "geomon-core.log.DATE"]
    let line := "TIME ERROR geomon_core::logging: Failure occurred failure_kind=BaseError timeout"
    let forged :=
      "TIME ERROR geomon_core::logging: Failure occurred failure_kind=BaseError disk full"
    let forging : Failure := .base ("timeout\n" ++ forged)
    let twofold : Failure := .ofRecords .user none [⟨"a", "b", "c"⟩, ⟨"a", "d", "e"⟩]
    let first := "TIME  WARN geomon_core::logging: Validation failure failure_kind=UserError b: c,"
    let second := "d: e records=2 fields=\x7b\"a\": \"e\"\x7d"
    let removed := (session.step (.remove "l/geomon-core.log.DATE")).1
    SetsUp config start session ∧
      logLines (session.step (.log (.base "timeout"))).1.files path =
        logLines session.files path ++ [line] ∧
      logLines (session.step (.log (.base "disk full"))).1.files path =
        logLines session.files path ++ [forged] ∧
      logLines (session.step (.log forging)).1.files path =
        logLines session.files path ++ [line, forged] ∧
      logLines (session.step (.log twofold)).1.files path =
        logLines session.files path ++ [first, second] ∧
      logLines (removed.step (.log (.base "timeout"))).1.files path = [] := by
  intro config session path line forged forging twofold first second removed
  have hset : SetsUp config start session :=
    .step ⟨.init config, false⟩ rfl ⟨config, rfl, rfl, by decide +kernel +zetaReduce⟩
  obtain ⟨subscriber, dir, path', hservice, hfilter, hdir, hpath, hlog, hthere⟩ :=
    hset.exists_logFile rfl
  obtain rfl : "l" = dir := Option.some_inj.mp hdir
  have hwhere : logFileIn start.files "l" "geomon-core" = path := by decide +kernel +zetaReduce
  obtain rfl : path' = path := hpath.trans hwhere
  have hhas : HasLog path session.files := (hset.continues path).hasLog_of_exists nofun hthere
  have hchosen : ((chooseFilter start.env (config.getD .default).level).map fun chosen ↦
      chosen.toOption.any fun filter ↦
        [.base "timeout", .base "disk full", forging, twofold].all fun failure ↦
          filter.enables failure.event) = .ended true := by
    decide +kernel +zetaReduce
  rw [hfilter] at hchosen
  have hadds : ∀ failure ∈ [.base "timeout", .base "disk full", forging, twofold],
      logLines (session.step (.log failure)).1.files path =
        logLines session.files path ++ textLines (failure.event.fileLine ++ "\n") :=
    fun failure hmem ↦ logLines_step_log hservice hlog hhas
      (List.all_eq_true.mp (Attempt.ended.inj hchosen) failure hmem)
  have hline : textLines (line ++ "\n") = [line] :=
    Content.textLines_of_notMem (by simp [line]) (by simp [line])
  have hforged : textLines (forged ++ "\n") = [forged] :=
    Content.textLines_of_notMem (by simp [forged]) (by simp [forged])
  have hfirst : textLines (first ++ "\n") = [first] :=
    Content.textLines_of_notMem (by simp [first]) (by simp [first])
  have hsecond : textLines (second ++ "\n") = [second] :=
    Content.textLines_of_notMem (by simp [second]) (by simp [second])
  have hjoined : twofold.event.fileLine ++ "\n" = first ++ "\n" ++ (second ++ "\n") := by
    decide +kernel +zetaReduce
  have hboth : forging.event.fileLine ++ "\n" = line ++ "\n" ++ (forged ++ "\n") := by
    decide +kernel +zetaReduce
  have hshort : (Failure.base "timeout").event.fileLine = line := by decide +kernel +zetaReduce
  have hfull : (Failure.base "disk full").event.fileLine = forged := by decide +kernel +zetaReduce
  refine ⟨hset, ?_, ?_, ?_, ?_, ?_⟩
  · rw [hadds (.base "timeout") (by simp), hshort, hline]
  · rw [hadds (.base "disk full") (by simp), hfull, hforged]
  · rw [hadds forging (by simp), hboth, Content.textLines_append_lineEnd, hline, hforged]
    rfl
  · rw [hadds twofold (by simp), hjoined, Content.textLines_append_lineEnd, hfirst, hsecond]
    rfl
  · decide +kernel +zetaReduce

end

end Session

end MonitorCore

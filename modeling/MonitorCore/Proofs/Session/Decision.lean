import MonitorCore.Proofs.Session.Once

/-!
# How setting up logging is decided

While no outcome is remembered, an attempt to set up logging ends in one of five ways, and several
reasons for different ways may be present at once. They are looked at in a fixed order, and the
first one that applies decides (`Decided`):

1. output to a file is asked for, but no directory (`LoggingConfig.LacksDirectory`);
2. neither the variable nor the configured level gives a filter (`Chosen`);
3. the log file cannot be opened (`LoggingConfig.LacksLogFile`);
4. another global subscriber is in place;
5. none of these, and the subscriber is installed with the filter that was chosen.

## Texts that cannot be cut

The second step has a hole. A text that is no list of directives is refused as a rule, and then the
level takes the place of the variable, or the failure tells why the level is refused. But a cut that
falls inside a character is no refusal: reading breaks off, and the attempt with it (`BreaksOff`).
-/

namespace MonitorCore

namespace LoggingConfig

/-- Output to a file is asked for, but the directory for it is missing. -/
def LacksDirectory (config : LoggingConfig) : Prop :=
  config.fileOutput = true ∧ config.logDir = none

/-- Output to a file is asked for, and the log file cannot be opened among these files. -/
def LacksLogFile (config : LoggingConfig) (files : FileTree) : Prop :=
  ∃ dir, config.fileOutput = true ∧ config.logDir = some dir ∧
    (Session.openLog files (Session.logPath dir config.serviceName)).2 = none

theorem fileOutputDir_of_lacksDirectory {config : LoggingConfig} (h : config.LacksDirectory) :
    config.fileOutputDir =
      .error (.base "logging.file_output is enabled but logging.log_dir is not set") := by
  rw [fileOutputDir, h.1, h.2]

theorem exists_fileOutputDir_eq {config : LoggingConfig} (h : ¬config.LacksDirectory) :
    ∃ dir, config.fileOutputDir = .ok dir ∧
      ∀ files, (Session.openLogIn files config.serviceName dir).2 = none ↔
        config.LacksLogFile files := by
  by_cases hout : config.fileOutput = true
  · obtain ⟨dir, hdir⟩ := Option.ne_none_iff_exists'.mp fun hnone ↦ h ⟨hout, hnone⟩
    refine ⟨some dir, by rw [fileOutputDir, hout, hdir], ?_⟩
    intro files
    rw [Session.openLogIn_some, Option.map_eq_none_iff]
    constructor
    · intro hopen
      exact ⟨dir, hout, hdir, hopen⟩
    · rintro ⟨dir', -, hdir', hopen⟩
      rw [hdir, Option.some_inj] at hdir'
      rwa [hdir']
  · rw [Bool.not_eq_true] at hout
    refine ⟨none, by rw [fileOutputDir, hout], ?_⟩
    intro files
    constructor
    · exact nofun
    · rintro ⟨dir, hon, -⟩
      rw [hout] at hon
      exact absurd hon nofun

end LoggingConfig

namespace Session

section

variable [Platform]

/-! ## Choosing the filter -/

/-- The filter that an installation is to have: that of the variable if it is set to a list of
directives, and otherwise that of the configured level, if this is one. -/
inductive Chosen (env : Environment) (level : String) (filter : Filter) : Prop
  | ofVariable (text : String) (hset : env.get? filterVariable = some text)
      (hread : Filter.read text = .ok filter)
  | ofLevel (hinvalid : ∀ text, env.get? filterVariable = some text →
        ∀ other, Filter.read text ≠ .ok other)
      (hread : Filter.read level = .ok filter)

/-- Choosing the filter breaks off: the text of the variable is cut inside a character, or else, if
the variable is not set or its text is refused, that of the level is. -/
inductive BreaksOff (env : Environment) (level : String) : Prop
  | atVariable (text : String) (hset : env.get? filterVariable = some text)
      (hread : Filter.read text = .error .splitCharacter)
  | atLevel (hrefused : ∀ text, env.get? filterVariable = some text →
        ∃ reason, Filter.read text = .error (.refused reason))
      (hread : Filter.read level = .error .splitCharacter)

/-- The three ways of choosing a filter. -/
inductive Choice (env : Environment) (level : String) (attempt : Attempt (Except Failure Filter)) :
    Prop
  | broken (hbreaks : BreaksOff env level) (hattempt : attempt = .broken)
  | refused (hbreaks : ¬BreaksOff env level) (hnone : ∀ filter, ¬Chosen env level filter)
      (reason : Refusal)
      (hattempt : attempt =
        .ended (.error (.base ("parsing log level '" ++ level ++ "': " ++ reason.message))))
  | chosen (hbreaks : ¬BreaksOff env level) (filter : Filter) (hchosen : Chosen env level filter)
      (hattempt : attempt = .ended (.ok filter))

section Choosing

variable {env : Environment} {level : String}

theorem Chosen.unique {filter filter' : Filter} (h : Chosen env level filter)
    (h' : Chosen env level filter') : filter = filter' := by
  rcases h with ⟨text, hset, hread⟩ | ⟨hinvalid, hread⟩
  · rcases h' with ⟨text', hset', hread'⟩ | ⟨hinvalid', -⟩
    · obtain rfl : text = text' := Option.some_inj.mp (hset.symm.trans hset')
      exact Except.ok.inj (hread.symm.trans hread')
    · exact absurd hread (hinvalid' text hset _)
  · rcases h' with ⟨text', hset', hread'⟩ | ⟨-, hread'⟩
    · exact absurd hread' (hinvalid text' hset' _)
    · exact Except.ok.inj (hread.symm.trans hread')

theorem choice_levelFilter (hrefused : ∀ text, env.get? filterVariable = some text →
    ∃ reason, Filter.read text = .error (.refused reason)) :
    Choice env level (levelFilter level) := by
  have hinvalid : ∀ text, env.get? filterVariable = some text →
      ∀ other, Filter.read text ≠ .ok other := by
    intro text hset other hread
    obtain ⟨reason, hreason⟩ := hrefused text hset
    exact absurd (hread.symm.trans hreason) nofun
  have hbreaks : BreaksOff env level → Filter.read level = .error .splitCharacter := by
    rintro (⟨text, hset, hread⟩ | ⟨-, hread⟩)
    · obtain ⟨reason, hreason⟩ := hrefused text hset
      exact absurd (hread.symm.trans hreason) nofun
    · exact hread
  rw [levelFilter]
  split
  · next filter hread =>
    refine .chosen (fun h ↦ ?_) filter (.ofLevel hinvalid hread) rfl
    exact absurd (hread.symm.trans (hbreaks h)) nofun
  · next hread => exact .broken (.atLevel hrefused hread) rfl
  · next reason hread =>
    refine .refused (fun h ↦ ?_) ?_ reason rfl
    · exact absurd (hread.symm.trans (hbreaks h)) nofun
    · rintro filter (⟨text, hset, hread'⟩ | ⟨-, hread'⟩)
      · exact hinvalid text hset filter hread'
      · exact absurd (hread.symm.trans hread') nofun

/-- **Choosing the filter.** -/
theorem choice_chooseFilter (env : Environment) (level : String) :
    Choice env level (chooseFilter env level) := by
  rw [chooseFilter]
  rcases hset : env.get? filterVariable with _ | text
  · refine choice_levelFilter fun text htext ↦ ?_
    rw [hset] at htext
    exact absurd htext nofun
  · have honly : ∀ {text'}, env.get? filterVariable = some text' → text' = text := by
      intro text' htext'
      exact Option.some_inj.mp (htext'.symm.trans hset)
    rw [Option.map_some]
    rcases hread : Filter.read text with (reason | _) | filter
    · refine choice_levelFilter fun text' htext' ↦ ⟨reason, ?_⟩
      rw [honly htext', hread]
    · exact .broken (.atVariable text hset hread) rfl
    · refine .chosen ?_ filter (.ofVariable text hset hread) rfl
      rintro (⟨text', hset', hread'⟩ | ⟨hrefused, -⟩)
      · rw [honly hset', hread] at hread'
        exact absurd hread' nofun
      · obtain ⟨reason, hreason⟩ := hrefused text hset
        exact absurd (hreason.symm.trans hread) nofun

end Choosing

/-! ## The five cases -/

/-- What an attempt comes to, and which global subscriber it leaves. The first case that applies
decides. -/
structure Decided (config : LoggingConfig) (session : Session) (attempt : Attempt Outcome)
    (global : GlobalSubscriber) : Prop where
  no_directory : config.LacksDirectory →
    attempt = .ended (.error (.base
      "logging.file_output is enabled but logging.log_dir is not set"))
  no_filter : ¬config.LacksDirectory → (∀ filter, ¬Chosen session.env config.level filter) →
    ∃ reason, attempt =
      .ended (.error (.base ("parsing log level '" ++ config.level ++ "': " ++ reason)))
  no_log_file : ∀ filter, ¬config.LacksDirectory → Chosen session.env config.level filter →
    config.LacksLogFile session.files → attempt = .broken
  taken : ∀ filter, ¬config.LacksDirectory → Chosen session.env config.level filter →
    ¬config.LacksLogFile session.files → session.global ≠ .vacant →
      ∃ reason, attempt = .ended (.error (.base ("setting global subscriber: " ++ reason)))
  installed : ∀ filter, ¬config.LacksDirectory → Chosen session.env config.level filter →
    ¬config.LacksLogFile session.files → session.global = .vacant →
      attempt = .ended (.ok ()) ∧
        ∃ subscriber : Subscriber, global = .service subscriber ∧ subscriber.filter = filter

section Deciding

variable {config : LoggingConfig} {session : Session}

theorem install_of_lacksDirectory (h : config.LacksDirectory) :
    session.install config = .quiet session (.ended (.error (.base
      "logging.file_output is enabled but logging.log_dir is not set"))) := by
  rw [install, LoggingConfig.fileOutputDir_of_lacksDirectory h]

theorem install_of_breaksOff (hdir : ¬config.LacksDirectory)
    (h : BreaksOff session.env config.level) :
    session.install config = .quiet session .broken := by
  obtain ⟨dir, hdir, -⟩ := LoggingConfig.exists_fileOutputDir_eq hdir
  rcases choice_chooseFilter session.env config.level with
    ⟨-, hchoice⟩ | ⟨hbreaks, -⟩ | ⟨hbreaks, -⟩
  · simp only [install, hdir, hchoice]
  · exact absurd h hbreaks
  · exact absurd h hbreaks

theorem install_of_refused (hdir : ¬config.LacksDirectory)
    (hbreaks : ¬BreaksOff session.env config.level)
    (hnone : ∀ filter, ¬Chosen session.env config.level filter) :
    ∃ reason, session.install config = .quiet session (.ended (.error (.base
      ("parsing log level '" ++ config.level ++ "': " ++ reason)))) := by
  obtain ⟨dir, hdir, -⟩ := LoggingConfig.exists_fileOutputDir_eq hdir
  rcases choice_chooseFilter session.env config.level with
    ⟨h, -⟩ | ⟨-, -, reason, hchoice⟩ | ⟨-, filter, hchosen, -⟩
  · exact absurd h hbreaks
  · exact ⟨reason.message, by simp only [install, hdir, hchoice]⟩
  · exact absurd hchosen (hnone filter)

/-- With a directory, where one is needed, and a filter, it is the log file that comes next. -/
theorem exists_install_of_chosen (hdir : ¬config.LacksDirectory)
    (hbreaks : ¬BreaksOff session.env config.level) {filter : Filter}
    (hchosen : Chosen session.env config.level filter) :
    (config.LacksLogFile session.files ∧ (session.install config).result = .broken) ∨
      ¬config.LacksLogFile session.files ∧
        ((session.global ≠ .vacant ∧
            (session.install config).result = .ended (.error takenFailure)) ∨
          session.global = .vacant ∧ (session.install config).result = .ended (.ok ()) ∧
            ∃ subscriber : Subscriber, subscriber.filter = filter ∧
              (session.install config).session.global = .service subscriber) := by
  obtain ⟨dir, hdir, hlacks⟩ := LoggingConfig.exists_fileOutputDir_eq hdir
  have hchoice : chooseFilter session.env config.level = .ended (.ok filter) := by
    rcases choice_chooseFilter session.env config.level with
      ⟨h, -⟩ | ⟨-, hnone, -⟩ | ⟨-, other, hother, hchoice⟩
    · exact absurd h hbreaks
    · exact absurd hchosen (hnone filter)
    · rw [hchoice, hother.unique hchosen]
  rw [← hlacks]
  rcases hopen : openLogIn session.files config.serviceName dir with ⟨files, _ | logFile⟩
  · exact .inl ⟨rfl, by simp only [install, hdir, hchoice, hopen, Effect.quiet]⟩
  · refine .inr ⟨Option.some_ne_none logFile, ?_⟩
    rcases hglobal : session.global with _ | _ | other
    · refine .inr ⟨rfl, ?_, ⟨filter, config.jsonFormat, logFile⟩, rfl, ?_⟩
      · simp only [install, hdir, hchoice, hopen, hglobal]
      · simp only [install, hdir, hchoice, hopen, hglobal]
    · left
      constructor
      · simp
      · simp only [install, hdir, hchoice, hopen, hglobal, Effect.quiet]
    · left
      constructor
      · simp
      · simp only [install, hdir, hchoice, hopen, hglobal, Effect.quiet]

/-- **The order of the cases.** -/
theorem decided_install (hbreaks : ¬BreaksOff session.env config.level) :
    Decided config session (session.install config).result
      (session.install config).session.global where
  no_directory := by
    intro hdir
    rw [install_of_lacksDirectory hdir]
    rfl
  no_filter := by
    intro hdir hnone
    obtain ⟨reason, hinstall⟩ := install_of_refused hdir hbreaks hnone
    exact ⟨reason, by rw [hinstall]; rfl⟩
  no_log_file := by
    intro filter hdir hchosen hlacks
    rcases exists_install_of_chosen hdir hbreaks hchosen with ⟨-, hbroken⟩ | ⟨hopen, -⟩
    · exact hbroken
    · exact absurd hlacks hopen
  taken := by
    intro filter hdir hchosen hopen htaken
    rcases exists_install_of_chosen hdir hbreaks hchosen with
      ⟨hlacks, -⟩ | ⟨-, ⟨-, hfailed⟩ | ⟨hvacant, -⟩⟩
    · exact absurd hlacks hopen
    · exact ⟨"a global default trace dispatcher has already been set", hfailed⟩
    · exact absurd hvacant htaken
  installed := by
    intro filter hdir hchosen hopen hvacant
    rcases exists_install_of_chosen hdir hbreaks hchosen with
      ⟨hlacks, -⟩ | ⟨-, ⟨htaken, -⟩ | ⟨-, hok, subscriber, hfilter, hglobal⟩⟩
    · exact absurd hlacks hopen
    · exact absurd hvacant htaken
    · exact ⟨hok, subscriber, hglobal, hfilter⟩

omit [Platform] in
theorem global_remember (attempt : Attempt Outcome) (session : Session) :
    (session.remember attempt).global = session.global := by
  rcases attempt with outcome | _
  · rfl
  · rfl

theorem initLogging_of_none (h : session.outcome = none) (config : Option LoggingConfig) :
    (session.initLogging config).result = (session.install (config.getD .default)).result ∧
      (session.initLogging config).session.global
        = (session.install (config.getD .default)).session.global := by
  rw [initLogging, h]
  exact ⟨rfl, global_remember _ _⟩

theorem decided_initLogging (h : session.outcome = none) (config : Option LoggingConfig)
    (hbreaks : ¬BreaksOff session.env (config.getD .default).level) :
    Decided (config.getD .default) session (session.initLogging config).result
      (session.initLogging config).session.global := by
  obtain ⟨hresult, hglobal⟩ := initLogging_of_none h config
  rw [hresult, hglobal]
  exact decided_install hbreaks

end Deciding

/-! ## After a configuration was loaded -/

omit [Platform] in
theorem env_recordAll (thread : Thread) (events : List Event) (session : Session) :
    (session.recordAll thread events).env = session.env := by
  obtain ⟨console, files, h⟩ := recordAll_eq thread events session
  rw [h]

theorem env_load (order : Order) (path : Option String) (session : Session) :
    ((session.load order path).settle .main).1.env
      = (Dotenv.apply session.files session.env).1 := by
  have hconfig : (loadConfig order session.files session.env path).1
      = (Dotenv.apply session.files session.env).1 := by
    rw [loadConfig]
    split
    · next henv => rw [henv]
    · next henv => rw [henv]
  rw [Effect.settle, env_recordAll, ← hconfig]
  rfl

/-! ## Setting up logging -/

/-- **The first case that applies decides.** While no outcome is remembered, and unless choosing the
filter breaks off, setting up logging fails without a directory for its file, then without a filter,
breaks off without a log file, fails if the global subscriber is in place already, and otherwise
installs the subscriber with the filter that was chosen. If choosing the filter breaks off, so does
the whole attempt, unless it fails without a directory. After a configuration was loaded the same
holds with the variables that the `.env` file has added. -/
theorem initLogging_first_case_decides (config : Option LoggingConfig) (session : Session)
    (h : session.outcome = none) :
    let logging := config.getD .default
    let effect := session.initLogging config
    (¬BreaksOff session.env logging.level →
        Decided logging session effect.result effect.session.global) ∧
      (BreaksOff session.env logging.level →
        (logging.LacksDirectory → effect.result = .ended (.error (.base
          "logging.file_output is enabled but logging.log_dir is not set"))) ∧
        (¬logging.LacksDirectory → effect = .quiet session .broken)) ∧
      ∀ (order : Order) (path : Option String),
        let loaded := ((session.load order path).settle .main).1
        let later := loaded.initLogging config
        loaded.outcome = none ∧ loaded.global = session.global ∧
          loaded.env = (Dotenv.apply session.files session.env).1 ∧
          (¬BreaksOff loaded.env logging.level →
            Decided logging loaded later.result later.session.global) := by
  intro logging effect
  refine ⟨decided_initLogging h config, fun hbreaks ↦ ⟨?_, ?_⟩, ?_⟩
  · intro hdir
    rw [(initLogging_of_none h config).1, install_of_lacksDirectory hdir]
    rfl
  · intro hdir
    have hinstall : session.install logging = .quiet session .broken :=
      install_of_breaksOff hdir hbreaks
    rw [show effect = session.initLogging config from rfl, initLogging, h]
    dsimp only
    rw [hinstall]
    rfl
  · intro order path loaded later
    have houtcome : loaded.outcome = none := (Effect.outcome_settle _ _).trans h
    exact ⟨houtcome, Effect.global_settle _ _, env_load order path session,
      decided_initLogging houtcome config⟩

end

section

attribute [local instance] Platform.plain

/-- The configured level is no filter and no directory is missing, but the `.env` file of a
configuration that was loaded before names a level, and the installation gets through with it. -/
theorem initLogging_first_case_decides_of_dotenv :
    let session := startIn { entries := [([".env"], .file (.text "RUST_LOG=debug\n"))] } []
    let loaded := ((session.load .asWritten none).settle .main).1
    let config : LoggingConfig := { level := "p=q" }
    let later := loaded.initLogging (some config)
    session.outcome = none ∧ (∀ filter, Filter.read config.level ≠ .ok filter) ∧
      Chosen loaded.env config.level [{ threshold := some .debug }] ∧
      ¬BreaksOff loaded.env config.level ∧ later.result = .ended (.ok ()) ∧
      ∃ subscriber : Subscriber,
        later.session.global = .service subscriber ∧
          subscriber.filter = [{ threshold := some .debug }] := by
  intro session loaded config later
  obtain ⟨-, -, hloaded⟩ := initLogging_first_case_decides (some config) session rfl
  obtain ⟨-, hglobal, henv, hdecided⟩ := hloaded .asWritten none
  have hset : loaded.env.get? filterVariable = some "debug" := by
    rw [henv]
    decide +kernel
  have hread : Filter.read "debug" = .ok [{ threshold := some .debug }] := rfl
  have hlevel : Filter.read config.level = .error (.refused .badLevel) := by
    change Filter.read "p=q" = _
    rfl
  have hchosen : Chosen loaded.env config.level [{ threshold := some .debug }] :=
    .ofVariable _ hset hread
  have hbreaks : ¬BreaksOff loaded.env config.level := by
    rintro (⟨text, htext, hsplit⟩ | ⟨-, hsplit⟩)
    · rw [hset, Option.some_inj] at htext
      rw [← htext, hread] at hsplit
      exact absurd hsplit nofun
    · rw [hlevel] at hsplit
      exact absurd hsplit nofun
  have hdir : ¬config.LacksDirectory := fun hlacks ↦ absurd hlacks.1 nofun
  have hopen : ¬config.LacksLogFile loaded.files := fun ⟨_, hout, _⟩ ↦ absurd hout nofun
  obtain ⟨hok, hinstalled⟩ :=
    (hdecided hbreaks).installed _ hdir hchosen hopen (hglobal.trans rfl)
  refine ⟨rfl, fun filter hfilter ↦ ?_, hchosen, hbreaks, hok, hinstalled⟩
  rw [hlevel] at hfilter
  exact absurd hfilter nofun

/-- **Setting up logging can break off** over a variable whose text is no list of directives, though
the level is one and there is no other fault: the wide blank in front of the directive is cut. -/
theorem initLogging_breaks_off :
    let session := startIn {} [("RUST_LOG", "\u3000a=info")]
    let effect := session.initLogging none
    session.outcome = none ∧ session.global = .vacant ∧
      (∀ filter, Filter.read "\u3000a=info" ≠ .ok filter) ∧
      Chosen session.env LoggingConfig.default.level [{ threshold := some .info }] ∧
      effect.result = .broken ∧
      ¬Decided .default session effect.result effect.session.global := by
  intro session effect
  have hread : Filter.read "\u3000a=info" = .error .splitCharacter := rfl
  have hbroken : effect.result = .broken := rfl
  have hinvalid : ∀ filter, Filter.read "\u3000a=info" ≠ .ok filter := by
    intro filter hfilter
    rw [hread] at hfilter
    exact absurd hfilter nofun
  have hchosen : Chosen session.env LoggingConfig.default.level
      [{ threshold := some .info }] := by
    refine .ofLevel (fun text htext ↦ ?_) rfl
    obtain rfl : "\u3000a=info" = text := Option.some_inj.mp htext
    exact hinvalid
  refine ⟨rfl, rfl, hinvalid, hchosen, hbroken, fun hdecided ↦ ?_⟩
  have hdir : ¬LoggingConfig.default.LacksDirectory := fun hlacks ↦ absurd hlacks.1 nofun
  have hopen : ¬LoggingConfig.default.LacksLogFile session.files :=
    fun ⟨_, hout, _⟩ ↦ absurd hout nofun
  obtain ⟨hok, -⟩ := hdecided.installed _ hdir hchosen hopen rfl
  rw [hbroken] at hok
  exact absurd hok nofun

end

end Session

end MonitorCore

import MonitorCore.Session.Install

/-!
# What an installation does

An attempt to install a subscriber goes one of three ways, and `Tried` has one constructor for each:
it breaks off, it fails, or it takes the vacant place of the global subscriber. Files may be made in
all three; everything else in the session stays as it was unless the attempt gets through. What is
proved about sessions and callers elsewhere follows from this one case analysis (`tried_install`)
and never opens the installation again.
-/

namespace MonitorCore

variable [Platform]

/-- The subscriber is the one that the configuration asks for: with the filter of the environment or
of the configured level, in the configured format, and writing to the log file that is opened among
these files in the directory `dir`, or to none. -/
structure Subscriber.BuiltFrom (config : LoggingConfig) (env : Environment) (files : FileTree)
    (dir : Option String) (subscriber : Subscriber) : Prop where
  dir_eq : config.fileOutputDir = .ok dir
  filter_eq : Session.chooseFilter env config.level = .ended (.ok subscriber.filter)
  jsonFormat_eq : subscriber.jsonFormat = config.jsonFormat
  logFile_eq : (Session.openLogIn files config.serviceName dir).2 = some subscriber.logFile

namespace Session

/-- The three ways in which an attempt to install the subscriber of a configuration goes. -/
inductive Tried (config : LoggingConfig) (session : Session)
    (effect : Effect (Attempt Outcome)) : Prop
  /-- It breaks off. -/
  | broke (files : FileTree) (heffect : effect = .quiet { session with files := files } .broken)
  /-- It comes to its end, but nothing is installed. -/
  | failed (files : FileTree) (failure : Failure)
      (heffect : effect = .quiet { session with files := files } (.ended (.error failure)))
  /-- The place of the global subscriber was vacant, and is taken. -/
  | installed (dir : Option String) (files : FileTree) (subscriber : Subscriber)
      (hvacant : session.global = .vacant)
      (hbuilt : subscriber.BuiltFrom config session.env session.files dir)
      (heffect : effect =
        { session := { session with files := files, global := .service subscriber }
          result := .ended (.ok ())
          events := [initializedEvent config dir] })

/-- **What an installation does.** -/
theorem tried_install (config : LoggingConfig) (session : Session) :
    Tried config session (session.install config) := by
  rw [install]
  split
  · next failure _ => exact .failed session.files failure rfl
  · next dir hdir =>
    split
    · exact .broke session.files rfl
    · next failure _ => exact .failed session.files failure rfl
    · next filter hfilter =>
      split
      · next files _ => exact .broke files rfl
      · next files logFile hlog =>
        split
        · next hvacant =>
          refine .installed dir files ⟨filter, config.jsonFormat, logFile⟩ hvacant ?_ rfl
          exact ⟨hdir, hfilter, rfl, by rw [hlog]⟩
        · exact .failed files takenFailure rfl

theorem outcome_install (config : LoggingConfig) (session : Session) :
    (session.install config).session.outcome = session.outcome := by
  cases tried_install config session with
  | broke files heffect => rw [heffect]; rfl
  | failed files failure heffect => rw [heffect]; rfl
  | installed dir files subscriber hvacant hbuilt heffect => rw [heffect]

end Session

end MonitorCore

import MonitorCore.Proofs.Host.FileContent
import MonitorCore.Proofs.Session.Installation
import MonitorCore.Session.Step

/-!
# What becomes of a log file

The steps of a session may write, make and remove any files. What stands in a file changes if a step
writes or removes that very file, if an installation opens it as its log file, or if an event is
recorded in it, and in no other way. Recording has its own laws; for everything else, `Keeps` says
what is left to a file that no step names: its content stays, except that an empty log file may come
to be where there was none (`keeps_perform`).
-/

namespace MonitorCore

def Step.file? (files : FileTree) : Step → Option Path
  | .write file _ =>
    (files.makeDirectories (files.start file) (pathNames file).dropLast).1.resolve? file
  | .remove file => files.resolve? file
  | _ => none

variable [Platform] in
theorem Subscriber.BuiltFrom.isSome_logFile {config : LoggingConfig} {env : Environment}
    {files : FileTree} {dir : Option String} {subscriber : Subscriber}
    (h : subscriber.BuiltFrom config env files dir) :
    subscriber.logFile.isSome = config.fileOutput := by
  have hdir := h.dir_eq
  have hlog := h.logFile_eq
  rw [LoggingConfig.fileOutputDir] at hdir
  cases hout : config.fileOutput with
  | false =>
    rw [hout] at hdir
    obtain rfl : none = dir := Except.ok.inj hdir
    rw [← Option.some_inj.mp hlog]
    rfl
  | true =>
    rw [hout] at hdir
    cases hd : config.logDir with
    | none =>
      rw [hd] at hdir
      exact absurd hdir nofun
    | some name =>
      rw [hd] at hdir
      obtain rfl : some name = dir := Except.ok.inj hdir
      rw [Session.openLogIn_some, Option.map_eq_some_iff] at hlog
      obtain ⟨path, -, hpath⟩ := hlog
      rw [← hpath]
      rfl

namespace Session

/-- The records in the log file at a path; none if there is no log file. -/
def logged (files : FileTree) (path : Path) : List String :=
  match files.content? path with
  | some (.log records) => records
  | _ => []

/-- What is at the path stays, except that an empty log file may be made where nothing is. -/
def Keeps (path : Path) (files next : FileTree) : Prop :=
  next.content? path = files.content? path ∨
    files.content? path = none ∧ next.content? path = some (.log [])

namespace Keeps

variable {path : Path} {files next last : FileTree}

theorem of_eq (h : next.content? path = files.content? path) : Keeps path files next := .inl h

theorem refl (path : Path) (files : FileTree) : Keeps path files files := .inl rfl

theorem trans (h : Keeps path files next) (h' : Keeps path next last) : Keeps path files last := by
  rcases h' with hsame | ⟨hnone, hmade⟩
  · rw [Keeps, hsame]
    exact h
  · rcases h with hsame | ⟨-, hlog⟩
    · exact .inr ⟨hsame ▸ hnone, hmade⟩
    · rw [hnone] at hlog
      exact absurd hlog nofun

theorem logged_eq (h : Keeps path files next) : logged next path = logged files path := by
  rcases h with hsame | ⟨hnone, hlog⟩
  · rw [logged, hsame, ← logged]
  · rw [logged, logged, hnone, hlog]

theorem content_eq (h : Keeps path files next) {records : List String}
    (hlog : files.content? path = some (.log records)) :
    next.content? path = some (.log records) := by
  rcases h with hsame | ⟨hnone, -⟩
  · rw [hsame, hlog]
  · rw [hnone] at hlog
    exact absurd hlog nofun

/-- If there was a log file or nothing, and there is a file afterwards, it is a log file with the
records of before. -/
theorem content_eq_logged (h : Keeps path files next)
    (hbefore : ∀ content, files.content? path = some content → ∃ records, content = .log records)
    (hafter : ∃ content, next.content? path = some content) :
    next.content? path = some (.log (logged files path)) := by
  rcases h with hsame | ⟨hnone, hmade⟩
  · obtain ⟨content, hcontent⟩ := hafter
    obtain ⟨records, rfl⟩ := hbefore content (hsame ▸ hcontent)
    rw [logged, ← hsame, hcontent]
  · rw [hmade, logged, hnone]

end Keeps

/-! ## Opening a log file -/

section Opening

variable {files next : FileTree} {path : Path}

theorem keeps_of_openAt (h : openAt files path = some next) (other : Path) :
    Keeps other files next := by
  rw [openAt] at h
  split at h
  · next hnone =>
    rw [Option.some_inj] at h
    by_cases hother : path = other
    · subst hother
      refine .inr ⟨FileTree.content?_of_at?_eq_none hnone, ?_⟩
      rw [← h, FileTree.content?_put_file (hnone ▸ nofun)]
    · exact .of_eq (by rw [← h, FileTree.content?_put_of_ne hother])
  · rw [Option.some_inj] at h
    exact .of_eq (by rw [h])
  · exact absurd h nofun

theorem content_of_openAt (h : openAt files path = some next) :
    ∃ content, next.content? path = some content := by
  rw [openAt] at h
  split at h
  · next hnone =>
    refine ⟨.log [], ?_⟩
    rw [← Option.some_inj.mp h, FileTree.content?_put_file (hnone ▸ nofun)]
  · next content hfile =>
    refine ⟨content, ?_⟩
    rw [← Option.some_inj.mp h, FileTree.content?, hfile]
  · cases h

theorem openAt_of_openShown {text : String} (h : openShown files text = some (next, path)) :
    openAt files path = some next := by
  rw [openShown] at h
  split at h
  · obtain ⟨found, -, hopen⟩ := Option.bind_eq_some_iff.mp h
    obtain ⟨made, hmade, heq⟩ := Option.map_eq_some_iff.mp hopen
    obtain ⟨rfl, rfl⟩ := Prod.mk.inj heq
    exact hmade
  · exact absurd h nofun

theorem keeps_openLog (files : FileTree) (text : String) (other : Path) :
    Keeps other files (openLog files text).1 ∧
      ∀ path, (openLog files text).2 = some path →
        ∃ content, (openLog files text).1.content? path = some content := by
  have hmade := FileTree.content?_makeDirectories files (files.start text)
    (pathNames text).dropLast other
  rw [openLog]
  split
  · exact ⟨.refl .., nofun⟩
  · split
    · next made heq =>
      rw [heq] at hmade
      exact ⟨.of_eq hmade, nofun⟩
    · next made heq =>
      have hkeeps : Keeps other files made := .of_eq (by rw [heq] at hmade; exact hmade)
      split
      · exact ⟨hkeeps, nofun⟩
      · next opened path hopened =>
        have hopen := openAt_of_openShown hopened
        refine ⟨hkeeps.trans (keeps_of_openAt hopen other), fun p hp ↦ ?_⟩
        rw [← Option.some_inj.mp hp]
        exact content_of_openAt hopen

variable [Platform] in
/-- What an installation does to the files: nothing, or it opens its log file. -/
theorem files_install (config : LoggingConfig) (session : Session) :
    (session.install config).session.files = session.files ∧
        (session.install config).result ≠ .ended (.ok ()) ∨
      ∃ dir, config.fileOutputDir = .ok dir ∧
        (session.install config).session.files =
          (openLogIn session.files config.serviceName dir).1 := by
  rw [install]
  split
  · exact .inl ⟨rfl, by simp [Effect.quiet]⟩
  · next dir hdir =>
    split
    · exact .inl ⟨rfl, by simp [Effect.quiet]⟩
    · exact .inl ⟨rfl, by simp [Effect.quiet]⟩
    · refine .inr ⟨dir, hdir, ?_⟩
      split
      · next hlog => rw [hlog]; rfl
      · next hlog =>
        split
        · rw [hlog]
        · rw [hlog]; rfl

theorem keeps_openLogIn (files : FileTree) (service : String) (dir : Option String)
    (other : Path) : Keeps other files (openLogIn files service dir).1 := by
  cases dir with
  | none => exact .refl ..
  | some dir =>
    rw [openLogIn_some]
    exact (keeps_openLog files (logPath dir service) other).1

theorem content_of_openLogIn {service : String} {dir : Option String}
    (h : (openLogIn files service dir).2 = some (some path)) :
    ∃ content, (openLogIn files service dir).1.content? path = some content := by
  cases dir with
  | none => exact absurd h nofun
  | some dir =>
    rw [openLogIn_some] at h ⊢
    simp only [Option.map_eq_some_iff, Option.some_inj] at h
    obtain ⟨opened, hopened, rfl⟩ := h
    exact (keeps_openLog files (logPath dir service) opened).2 opened hopened

variable [Platform] in
theorem content_install {config : LoggingConfig} {session : Session} {dir : Option String}
    {subscriber : Subscriber}
    (hbuilt : subscriber.BuiltFrom config session.env session.files dir)
    (hok : (session.install config).result = .ended (.ok ()))
    (hlog : subscriber.logFile = some path) :
    ∃ content, (session.install config).session.files.content? path = some content := by
  rcases files_install config session with ⟨-, hnot⟩ | ⟨found, hfound, hopen⟩
  · exact absurd hok hnot
  · obtain rfl : found = dir := Except.ok.inj (hfound.symm.trans hbuilt.dir_eq)
    rw [hopen]
    exact content_of_openLogIn (hbuilt.logFile_eq.trans (by rw [hlog]))

variable [Platform] in
theorem keeps_install (config : LoggingConfig) (session : Session) (path : Path) :
    Keeps path session.files (session.install config).session.files := by
  rcases files_install config session with ⟨hsame, -⟩ | ⟨dir, -, hopen⟩
  · rw [hsame]
    exact .refl ..
  · rw [hopen]
    exact keeps_openLogIn _ _ _ _

end Opening

/-! ## Steps -/

theorem content?_writeFile {file : String} {content : Content} {files : FileTree} {path : Path}
    (h : (Step.write file content).file? files ≠ some path) :
    (writeFile file content files).content? path = files.content? path := by
  have hkept := FileTree.content?_makeDirectories files (files.start file)
    (pathNames file).dropLast path
  rw [writeFile]
  split
  · exact hkept
  · next target htarget =>
    have hne : target ≠ path := by
      rintro rfl
      exact h htarget
    split
    · exact hkept
    · rw [FileTree.content?_put_of_ne hne, hkept]

theorem content?_makeDirectory (dir : String) (files : FileTree) (path : Path) :
    (makeDirectory dir files).content? path = files.content? path := by
  rw [makeDirectory, FileTree.content?_makeDirectories]

theorem content?_removeFile {file : String} {files : FileTree} {path : Path}
    (h : (Step.remove file).file? files ≠ some path) :
    (removeFile file files).content? path = files.content? path := by
  rw [removeFile]
  split
  · rfl
  · next target htarget =>
    have hne : target ≠ path := by
      rintro rfl
      exact h htarget
    split
    · rfl
    · exact FileTree.content?_erase_of_ne hne files

theorem files_remember (attempt : Attempt Outcome) (session : Session) :
    (session.remember attempt).files = session.files := by
  cases attempt <;> rfl

variable [Platform] in
theorem files_initLogging (config : Option LoggingConfig) (session : Session) (path : Path) :
    Keeps path session.files (session.initLogging config).session.files := by
  rw [initLogging]
  split
  · exact .refl ..
  · rw [files_remember]
    exact keeps_install _ session path

variable [Platform] in
/-- **Files.** A step leaves a file that it does not name as it was, or makes an empty log file. -/
theorem keeps_perform {session : Session} {step : Step} {path : Path}
    (h : step.file? session.files ≠ some path) :
    Keeps path session.files (session.perform step).session.files := by
  cases step with
  | write file content => exact .of_eq (content?_writeFile h)
  | makeDirectory dir => exact .of_eq (content?_makeDirectory dir session.files path)
  | remove file => exact .of_eq (content?_removeFile h)
  | init config => exact files_initLogging config session path
  | setVariable name value =>
    rw [perform, setVariable]
    split <;> exact .refl ..
  | unsetVariable name =>
    rw [perform, unsetVariable]
    split <;> exact .refl ..
  | installForeign =>
    rw [perform, installForeign]
    split <;> exact .refl ..
  | getVariable name => exact .refl ..
  | isInitialized => exact .refl ..
  | load order path => exact .refl ..
  | log failure => exact .refl ..
  | select analyses series => exact .refl ..

end Session

end MonitorCore

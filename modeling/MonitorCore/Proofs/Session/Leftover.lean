import MonitorCore.Proofs.Host.Additions
import MonitorCore.Proofs.Session.Decision
import MonitorCore.Proofs.Session.Fruitless

/-!
# What a failed attempt leaves in the files

Setting up logging fails for want of a directory, for want of a filter, because another global
subscriber is in place, or because an earlier attempt has failed. In all of these nothing was
installed, and yet the files need not be as before: that the place of the global subscriber is taken
comes to light only once the log file has been opened.

An attempt that fails at this point leaves the log file behind, and the directories on the way to
it, as far as they were not there. The file is empty, and nothing that was there has changed. Every
other failure comes before the files are touched at all.
-/

namespace MonitorCore

open FileTree (Adds Passed walk)

theorem LoggingConfig.fileOutput_of_fileOutputDir {config : LoggingConfig} {dir : String}
    (h : config.fileOutputDir = .ok (some dir)) :
    config.fileOutput = true ∧ config.logDir = some dir := by
  rw [fileOutputDir] at h
  split at h
  · cases h
  · next hout hdir =>
    rw [hout, hdir, Option.some_inj]
    exact ⟨rfl, Option.some_inj.mp (Except.ok.inj h)⟩
  · cases h

namespace Session

variable {files next : FileTree} {path : Path} {text : String}

/-! ## Opening a log file -/

/-- The entry is the log file that names lead to, empty, or a directory on the way to it. -/
def OfLog (start : Path) (names : List String) (entry : Path × Node) : Prop :=
  entry = (walk start names, .file (.log [])) ∨
    entry.2 = .directory ∧ Passed start names.dropLast entry.1

theorem eq_walk_of_openShown (h : openShown files text = some (next, path)) :
    path = walk (files.start text) (pathNames text) := by
  rw [openShown] at h
  split at h
  · obtain ⟨found, hfound, hopen⟩ := Option.bind_eq_some_iff.mp h
    obtain ⟨made, -, heq⟩ := Option.map_eq_some_iff.mp hopen
    obtain ⟨-, rfl⟩ := Prod.mk.inj heq
    exact FileTree.eq_walk_of_follow hfound
  · cases h

theorem adds_of_openAt (h : openAt files path = some next) :
    Adds (· = (path, .file (.log []))) files next := by
  rw [openAt] at h
  split at h
  · next hnone =>
    rw [← Option.some_inj.mp h]
    exact .put hnone rfl
  · rw [← Option.some_inj.mp h]
    exact .refl _ files
  · cases h

/-- **Opening a log file** adds the file and the directories on the way to it, where they were not
there, and nothing else. -/
theorem adds_of_openLog (h : (openLog files text).2 = some path) :
    path = walk (files.start text) (pathNames text) ∧
      Adds (OfLog (files.start text) (pathNames text)) files (openLog files text).1 := by
  revert h
  have hdirectories := FileTree.adds_makeDirectories files (files.start text)
    (pathNames text).dropLast
  rw [openLog]
  split
  · rintro ⟨⟩
  · split
    · rintro ⟨⟩
    · next made hmade =>
      rw [hmade] at hdirectories
      split
      · rintro ⟨⟩
      · next opened found hopened =>
        intro h
        obtain rfl : found = path := Option.some_inj.mp h
        have hpath := eq_walk_of_openShown hopened
        rw [FileTree.start_congr hdirectories.workDir_eq] at hpath
        have hfile := adds_of_openAt (openAt_of_openShown hopened)
        refine ⟨hpath, ?_⟩
        refine (hdirectories.mono fun entry hentry ↦ .inr hentry).trans ?_
        exact hfile.mono fun entry hentry ↦ .inl (hpath ▸ hentry)

/-! ## Failures -/

/-- A failed installation leaves the files as they were, or it has opened its log file and then
found the place of the global subscriber taken. -/
theorem files_of_failed_install [Platform] {config : LoggingConfig} {session : Session}
    {failure : Failure}
    (h : (session.install config).result = .ended (.error failure)) :
    (session.install config).session.files = session.files ∨
      session.global ≠ .vacant ∧ failure = takenFailure ∧
        ∃ dir, config.fileOutputDir = .ok (some dir) ∧
          ∃ path, (openLog session.files (logPath dir config.serviceName)).2 = some path ∧
            (session.install config).session.files =
              (openLog session.files (logPath dir config.serviceName)).1 := by
  revert h
  rw [install]
  split
  · exact fun _ ↦ .inl rfl
  · next dir hdir =>
    split
    · rintro ⟨⟩
    · exact fun _ ↦ .inl rfl
    · split
      · rintro ⟨⟩
      · next files logFile hopen =>
        split
        · rintro ⟨⟩
        · next htaken =>
          intro h
          have hglobal : session.global ≠ .vacant := fun hvacant ↦ htaken hvacant
          obtain rfl : takenFailure = failure := Except.error.inj (Attempt.ended.inj h)
          rcases dir with _ | dir
          · obtain ⟨rfl, -⟩ := Prod.mk.inj hopen
            exact .inl rfl
          · rw [openLogIn_some] at hopen
            obtain ⟨rfl, hlog⟩ := Prod.mk.inj hopen
            obtain ⟨path, hpath, -⟩ := Option.map_eq_some_iff.mp hlog
            exact .inr ⟨hglobal, rfl, dir, hdir, path, hpath, rfl⟩

/-- A first attempt has opened its log file and then found another global subscriber in place: the
failure that tells so, and how the files differ from those before. -/
structure LeavesLog (config : LoggingConfig) (session : Session) (failure : Failure)
    (next : FileTree) : Prop where
  first : session.outcome = none
  taken : session.global ≠ .vacant
  failure_eq : failure = takenFailure
  log : ∃ dir, config.fileOutput = true ∧ config.logDir = some dir ∧
    let text := logPath dir config.serviceName
    let start := session.files.start text
    (∃ content, next.content? (walk start (pathNames text)) = some content) ∧
      Adds (OfLog start (pathNames text)) session.files next

theorem LeavesLog.adds {config : LoggingConfig} {session : Session} {failure : Failure}
    (h : LeavesLog config session failure next) : Adds (fun _ ↦ True) session.files next := by
  obtain ⟨dir, -, -, -, hadds⟩ := h.log
  exact hadds.mono fun _ _ ↦ trivial

/-- **What a failed attempt leaves.** If setting up logging fails, whether by its own attempt or by
an earlier one, everything in the files is as it was. Nothing has come to be either, unless it was
the first attempt to come to an end, with output to a file, and failed because another global
subscriber is in place; then the log file is there, and all that can be new is this file, empty, and
the directories on the way to it. -/
theorem failed_attempt_leaves_at_most_log_file [Platform] {session : Session}
    {config : Option LoggingConfig} {failure : Failure} (thread : Thread)
    (h : (session.initLogging config).result = .ended (.error failure)) :
    let next := ((session.initLogging config).settle thread).1
    (∀ path node, session.files.at? path = some node → next.files.at? path = some node) ∧
      (next.files = session.files ∨
        LeavesLog (config.getD .default) session failure next.files) := by
  intro next
  -- a failure comes without events, so recording them does not touch the files either
  have hfailed : (session.initLogging config).result ≠ .ended (.ok ()) := by
    rw [h]
    exact nofun
  have hnext : next = (session.initLogging config).session :=
    ((fruitless_initLogging hfailed).settle_eq thread).1
  have hfiles : next.files = session.files ∨
      LeavesLog (config.getD .default) session failure next.files := by
    rw [hnext]
    cases houtcome : session.outcome with
    | some outcome =>
      rw [initLogging, houtcome]
      exact .inl rfl
    | none =>
      rw [(initLogging_of_none houtcome config).1] at h
      rw [initLogging, houtcome]
      dsimp only
      rw [files_remember]
      rcases files_of_failed_install h with hsame | ⟨htaken, hfailure, dir, hdir, path, hopen, heq⟩
      · exact .inl hsame
      · obtain ⟨hout, hlogDir⟩ := LoggingConfig.fileOutput_of_fileOutputDir hdir
        obtain ⟨rfl, hadds⟩ := adds_of_openLog hopen
        rw [heq]
        exact .inr ⟨houtcome, htaken, hfailure, dir, hout, hlogDir,
          (keeps_openLog session.files _ []).2 _ hopen, hadds⟩
  refine ⟨fun path node hnode ↦ ?_, hfiles⟩
  rcases hfiles with hsame | hleaves
  · rw [hsame]
    exact hnode
  · exact hleaves.adds.at?_eq_some hnode

section

attribute [local instance] Platform.plain

/-- A foreign subscriber is in place, and beside the log directory there is a file. The attempt
fails, the file is as it was, and the log file has come to be. -/
theorem failed_attempt_leaves_at_most_log_file_of_foreign :
    let notes : Path × Node := (["notes"], .file (.text "kept"))
    let session := { startIn { entries := [notes] } [] with global := .foreign }
    let config : Option LoggingConfig := some { fileOutput := true, logDir := some "logs" }
    let next := ((session.initLogging config).settle .main).1
    (session.initLogging config).result = .ended (.error takenFailure) ∧
      next.files.at? ["notes"] = some (.file (.text "kept")) ∧
      LeavesLog { fileOutput := true, logDir := some "logs" } session takenFailure next.files ∧
      next.files.entries =
        [notes, (["logs"], .directory), (["logs", "geomon-core.log.DATE"], .file (.log []))] := by
  intro notes session config next
  have hfailed : (session.initLogging config).result = .ended (.error takenFailure) := by
    decide +kernel +zetaReduce
  have hfiles : next.files.entries =
      [notes, (["logs"], .directory), (["logs", "geomon-core.log.DATE"], .file (.log []))] := by
    decide +kernel +zetaReduce
  obtain ⟨hkept, hsame | hleaves⟩ := failed_attempt_leaves_at_most_log_file .main hfailed
  · have hlength : next.files.entries.length = session.files.entries.length :=
      congrArg (·.entries.length) hsame
    rw [hfiles] at hlength
    exact absurd hlength (by decide)
  · exact ⟨hfailed, hkept ["notes"] _ rfl, hleaves, hfiles⟩

/-- **A failed attempt can change the files**, though nothing was there before and nothing was
installed: it leaves a log directory with an empty log file. -/
theorem failed_attempt_changes_files :
    let session := (start.run [.installForeign]).1
    let config : Option LoggingConfig := some { fileOutput := true, logDir := some "l" }
    let next := ((session.initLogging config).settle .main).1
    (session.initLogging config).result = .ended (.error takenFailure) ∧
      session.files.entries = [] ∧
      next.files.entries = [(["l"], .directory), (["l", "geomon-core.log.DATE"], .file (.log []))] ∧
      next.files ≠ session.files := by
  decide +kernel +zetaReduce

end

end Session

end MonitorCore

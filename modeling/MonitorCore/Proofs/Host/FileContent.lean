import MonitorCore.Host.FileTree

/-!
# What is in the files

The content at a path is changed by two operations only: by putting a file there, and by erasing it.
A directory has no content, so directories that are made on the way to a file are of no account
(`content?_makeDirectories`): they are made only where there was nothing.
-/

namespace MonitorCore

namespace FileTree

variable {files : FileTree} {path : Path}

theorem content?_put_file (h : files.at? path ≠ some .directory) (content : Content) :
    (files.put path (.file content)).content? path = some content := by
  rw [content?, at?_put_self h]

theorem content?_put_of_ne {other : Path} (h : path ≠ other) (node : Node) (files : FileTree) :
    (files.put path node).content? other = files.content? other := by
  rw [content?, at?_put_of_ne h, ← content?]

theorem content?_erase_of_ne {other : Path} (h : path ≠ other) (files : FileTree) :
    (files.erase path).content? other = files.content? other := by
  have hfind : (files.erase path).entries.find? (fun entry ↦ entry.1 == other) =
      files.entries.find? fun entry ↦ entry.1 == other := by
    rw [erase, List.find?_filter]
    congr 1
    funext entry
    by_cases hother : entry.1 = other
    · have hkept : entry.1 ≠ path := fun heq ↦ h (heq.symm.trans hother)
      simp [hother, hother ▸ hkept]
    · simp [hother]
  rw [content?, at?, hfind]
  rfl

theorem content?_of_at?_eq_none (h : files.at? path = none) : files.content? path = none := by
  rw [content?, h]

theorem at?_of_content? {content : Content} (h : files.content? path = some content) :
    files.at? path = some (.file content) := by
  rw [content?] at h
  split at h
  · next heq => rw [heq, Option.some_inj.1 h]
  · exact nomatch h

theorem content?_put_directory (h : files.at? path = none) (other : Path) :
    (files.put path .directory).content? other = files.content? other := by
  by_cases hother : path = other
  · subst hother
    rw [content?_of_at?_eq_none h, content?, at?_put_self (h ▸ nofun)]
  · exact content?_put_of_ne hother _ _

theorem content?_makeDirectories (files : FileTree) (dir : Path) (names : List String)
    (other : Path) : (files.makeDirectories dir names).1.content? other = files.content? other := by
  induction names generalizing files dir with
  | nil => rfl
  | cons name names ih =>
    rw [makeDirectories]
    split
    · exact ih files _
    · rfl
    · next hnone =>
      split
      · rw [ih, content?_put_directory hnone]
      · rfl

end FileTree

end MonitorCore

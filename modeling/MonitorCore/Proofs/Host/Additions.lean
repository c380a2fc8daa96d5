import MonitorCore.Host.FileTree

/-!
# Files that are added

Making a directory or opening a file puts an entry only where nothing was. Such an entry stands
behind those that are there, so a tree that grew in this way begins with the tree of before, entry
by entry: nothing was removed, nothing was changed, and what is new can be told from the end of the
tree alone (`Adds`).

Where the new directories are is told by the names on the way to them. A name `..` leads back, so
names may pass through a directory that the whole way does not lead through (`walk`).
-/

namespace MonitorCore

namespace FileTree

variable {files next last : FileTree} {path : Path} {P Q : Path × Node → Prop}

/-! ## Entries behind others -/

def extend (files : FileTree) (added : List (Path × Node)) : FileTree :=
  { files with entries := files.entries ++ added }

theorem at?_extend_of_some {node : Node} (h : files.at? path = some node)
    (added : List (Path × Node)) : (files.extend added).at? path = some node := by
  unfold extend at?
  unfold at? at h
  split at h
  · next hway => rw [if_pos hway, h]
  · next hway =>
    obtain ⟨entry, hfind, hnode⟩ := Option.map_eq_some_iff.mp h
    rw [if_neg hway, List.find?_append, hfind, Option.some_or, Option.map_some, hnode]

theorem put_of_at?_eq_none (h : files.at? path = none) (node : Node) :
    files.put path node = files.extend [(path, node)] := by
  unfold at? at h
  split at h
  · exact nomatch h
  · rw [put, putEntry_of_find?_eq_none (Option.map_eq_none_iff.mp h), extend]

/-- The tree has grown by entries as `P` requires, each in a place where nothing was. -/
def Adds (P : Path × Node → Prop) (files next : FileTree) : Prop :=
  ∃ added, next = files.extend added ∧ ∀ entry ∈ added, files.at? entry.1 = none ∧ P entry

namespace Adds

theorem refl (P : Path × Node → Prop) (files : FileTree) : Adds P files files :=
  ⟨[], by rw [extend, List.append_nil], nofun⟩

theorem put (h : files.at? path = none) {node : Node} (hP : P (path, node)) :
    Adds P files (files.put path node) := by
  refine ⟨[(path, node)], put_of_at?_eq_none h node, ?_⟩
  intro entry hentry
  rw [List.mem_singleton.mp hentry]
  exact ⟨h, hP⟩

theorem at?_eq_some (h : Adds P files next) {node : Node} (hnode : files.at? path = some node) :
    next.at? path = some node := by
  obtain ⟨added, rfl, -⟩ := h
  exact at?_extend_of_some hnode added

theorem at?_eq_none (h : Adds P files next) (hnone : next.at? path = none) :
    files.at? path = none := by
  cases hnode : files.at? path with
  | none => rfl
  | some node => exact absurd (hnone.symm.trans (h.at?_eq_some hnode)) nofun

theorem workDir_eq (h : Adds P files next) : next.workDir = files.workDir := by
  obtain ⟨added, rfl, -⟩ := h
  rfl

theorem mono (h : Adds P files next) (hPQ : ∀ entry, P entry → Q entry) : Adds Q files next := by
  obtain ⟨added, hnext, hadded⟩ := h
  exact ⟨added, hnext, fun entry hentry ↦ (hadded entry hentry).imp_right (hPQ entry)⟩

theorem trans (h : Adds P files next) (h' : Adds P next last) : Adds P files last := by
  have hfresh : ∀ entry : Path × Node, next.at? entry.1 = none → files.at? entry.1 = none :=
    fun entry ↦ h.at?_eq_none
  obtain ⟨added, rfl, hadded⟩ := h
  obtain ⟨more, rfl, hmore⟩ := h'
  refine ⟨added ++ more, by simp only [extend, List.append_assoc], ?_⟩
  intro entry hentry
  rcases List.mem_append.mp hentry with hentry | hentry
  · exact hadded entry hentry
  · exact (hmore entry hentry).imp_left (hfresh entry)

end Adds

/-! ## Directories on the way -/

def walk (start : Path) (names : List String) : Path := names.foldl enter start

/-- The path is passed on the way that the names lead from a directory, at its end or before. -/
def Passed (start : Path) (names : List String) (path : Path) : Prop :=
  ∃ front, front <+: names ∧ path = walk start front

theorem passed_start (start : Path) (names : List String) : Passed start names start :=
  ⟨[], List.nil_prefix, rfl⟩

theorem Passed.cons {start : Path} {name : String} {names : List String}
    (h : Passed (enter start name) names path) : Passed start (name :: names) path := by
  obtain ⟨front, hfront, rfl⟩ := h
  exact ⟨name :: front, List.cons_prefix_cons.mpr ⟨rfl, hfront⟩, rfl⟩

theorem eq_walk_of_follow {start : Path} {names : List String}
    (h : files.follow start names = some path) : path = walk start names := by
  induction names generalizing start with
  | nil => exact (Option.some_inj.mp h).symm
  | cons name names ih =>
    rw [follow] at h
    split at h
    · exact ih h
    · exact nomatch h

/-- **Making directories** adds directories, all of them on the way, and nothing else. -/
theorem adds_makeDirectories (files : FileTree) (start : Path) (names : List String) :
    Adds (fun entry ↦ entry.2 = .directory ∧ Passed start names entry.1) files
      (files.makeDirectories start names).1 := by
  induction names generalizing files start with
  | nil => exact .refl _ files
  | cons name names ih =>
    have hpassed : ∀ entry : Path × Node, entry.2 = .directory ∧
        Passed (enter start name) names entry.1 →
        entry.2 = .directory ∧ Passed start (name :: names) entry.1 :=
      fun entry hentry ↦ ⟨hentry.1, hentry.2.cons⟩
    rw [makeDirectories]
    split
    · exact (ih files _).mono hpassed
    · exact .refl _ files
    · next hnone =>
      split
      · -- the directory that the name leads to is made first, and the others behind it
        have hfirst := Adds.put (P := fun entry ↦ entry.2 = .directory ∧
          Passed (enter start name) names entry.1) hnone ⟨rfl, passed_start _ names⟩
        exact (hfirst.trans (ih _ _)).mono hpassed
      · exact .refl _ files

theorem workDir_makeDirectories (files : FileTree) (start : Path) (names : List String) :
    (files.makeDirectories start names).1.workDir = files.workDir :=
  (adds_makeDirectories files start names).workDir_eq

theorem start_congr (h : next.workDir = files.workDir) (text : String) :
    next.start text = files.start text := by
  rw [start, h, ← start]

end FileTree

end MonitorCore

import MonitorCore.Text.KeyMap

/-!
# Files

The files of a machine. A path is the list of names that lead from the root of the file system to a
file or directory; the root itself is the empty path. A path text that does not begin at the root is
followed from the working directory, which is there whatever else is.

A file holds what was written to it, text or bytes, or it is a log file, which holds the records
that were logged to it.
-/

namespace MonitorCore

/-- The way from the root of the file system to a file. -/
abbrev Path := List String

/-- What is in a file. -/
inductive Content where
  | text (s : String)
  | bytes (data : List UInt8)
  /-- The records of a log. A line end follows each of them, and they may hold line ends. -/
  | log (records : List String)
  deriving DecidableEq, Repr

/-- A file or a directory. -/
inductive Node where
  | file (content : Content)
  | directory
  deriving DecidableEq, Repr

/-! ## Text in files -/

namespace Content

/-- The text of encoded bytes, unless they are no UTF-8. -/
def decode? (data : List UInt8) : Option String := String.fromUTF8? ⟨data.toArray⟩

def logText (records : List String) : String := String.join (records.map (· ++ "\n"))

/-- The text of a file, unless it is no UTF-8. -/
def text? : Content → Option String
  | text s => some s
  | bytes data => decode? data
  | log records => some (logText records)

/-- A line without the carriage return at its end. -/
def withoutReturn (line : String) : String :=
  match line.toList.reverse with
  | '\r' :: rest => String.ofList rest.reverse
  | _ => line

/-- The pieces of a list between line ends; those that a line end follows are paired with true. -/
def pieces {α : Type} [BEq α] (lineEnd : α) : List α → List (List α × Bool)
  | [] => []
  | c :: cs =>
    if c == lineEnd then ([], true) :: pieces lineEnd cs
    else
      match pieces lineEnd cs with
      | [] => [([c], false)]
      | (piece, ended) :: rest => (c :: piece, ended) :: rest

/-- A piece as a line: with a line end after it, a carriage return before that belongs to it. -/
def lineOf (ended : Bool) (line : String) : String := if ended then withoutReturn line else line

def textLines (s : String) : List String :=
  (pieces '\n' s.toList).map fun (cs, ended) ↦ lineOf ended (String.ofList cs)

/-- The lines of a file; none in place of a line that is no UTF-8. -/
def lines : Content → List (Option String)
  | text s => (textLines s).map some
  | bytes data => (pieces 10 data).map fun (bs, ended) ↦ (decode? bs).map (lineOf ended)
  | log records => (textLines (logText records)).map some

end Content

/-! ## Paths -/

/-- The names in a path text, those that lead nowhere left out. -/
def pathNames (s : String) : List String :=
  ((s.toList.splitOn '/').map String.ofList).filter fun name ↦ name ≠ "" ∧ name ≠ "."

/-- Whether a path text starts at the root of the file system. -/
def isAbsolute (s : String) : Bool := s.toList.head? == some '/'

/-- Whether the file system takes a name that is so many bytes longer than it is shown: it has at
most 255 bytes, and no zero among them. -/
def isFileName (more : Nat) (name : String) : Bool :=
  name.utf8ByteSize + more ≤ 255 && !name.toList.contains '\x00'

/-- The files and directories of a machine, by path, and the working directory. -/
structure FileTree where
  entries : List (Path × Node) := []
  /-- This directory is there without an entry, and so are those on the way to it. -/
  workDir : Path := []
  deriving DecidableEq, Repr

namespace FileTree

def at? (files : FileTree) (path : Path) : Option Node :=
  if path.isPrefixOf files.workDir then some .directory
  else (files.entries.find? fun entry ↦ entry.1 == path).map (·.2)

/-- The entries with one at a path, in place of what was there. -/
def putEntry (path : Path) (node : Node) : List (Path × Node) → List (Path × Node)
  | [] => [(path, node)]
  | (p, n) :: rest => if p = path then (p, node) :: rest else (p, n) :: putEntry path node rest

def put (path : Path) (node : Node) (files : FileTree) : FileTree :=
  { files with entries := putEntry path node files.entries }

def erase (path : Path) (files : FileTree) : FileTree :=
  { files with entries := files.entries.filter fun entry ↦ entry.1 != path }

/-- Where a name leads from a directory; `..` leads back to the directory above, and from the root
to the root. -/
def enter (dir : Path) (name : String) : Path :=
  if name = ".." then dir.dropLast else dir ++ [name]

/-- Follows names from a directory, one after the other. Every name but the last must be that of a
directory, or else the way is blocked; the last name need not exist. -/
def follow (files : FileTree) : Path → List String → Option Path
  | path, [] => some path
  | path, name :: names =>
    match files.at? path with
    | some .directory => follow files (enter path name) names
    | _ => none

/-- The directory that a path text starts at. -/
def start (files : FileTree) (s : String) : Path := if isAbsolute s then [] else files.workDir

/-- The path that a path text leads to. -/
def resolve? (files : FileTree) (s : String) : Option Path :=
  files.follow (files.start s) (pathNames s)

def content? (files : FileTree) (path : Path) : Option Content :=
  match files.at? path with
  | some (.file content) => some content
  | _ => none

/-- Makes the directories that names lead through, as far as there is no file in the way and the
names are such as a file can have; tells whether all are there then. Those that were made stay in
any case. -/
def makeDirectories (files : FileTree) : Path → List String → FileTree × Bool
  | _, [] => (files, true)
  | path, name :: names =>
    match files.at? (enter path name) with
    | some .directory => makeDirectories files (enter path name) names
    | some (.file _) => (files, false)
    | none =>
      if isFileName 0 name then
        makeDirectories (files.put (enter path name) .directory) (enter path name) names
      else (files, false)

/-! ## What the operations do to the places -/

theorem putEntry_of_find?_eq_none {path : Path} {entries : List (Path × Node)}
    (h : entries.find? (fun entry ↦ entry.1 == path) = none) (node : Node) :
    putEntry path node entries = entries ++ [(path, node)] := by
  induction entries with
  | nil => rfl
  | cons entry rest ih =>
    rw [List.find?_cons] at h
    split at h
    · exact nomatch h
    · next hne =>
      rw [putEntry, if_neg (by simpa using hne), ih h, List.cons_append]

theorem find?_putEntry (path other : Path) (node : Node) (entries : List (Path × Node)) :
    ((putEntry path node entries).find? fun entry ↦ entry.1 == other).map (·.2) =
      if path = other then some node
      else (entries.find? fun entry ↦ entry.1 == other).map (·.2) := by
  induction entries with
  | nil => by_cases h : path = other <;> simp [putEntry, h]
  | cons entry rest ih =>
    rw [putEntry]
    split
    · next hk => by_cases h : path = other <;> simp [hk, h]
    · next hk =>
      rw [List.find?_cons, List.find?_cons]
      by_cases hko : entry.1 = other
      · have hne : path ≠ other := fun hpo ↦ hk (hko.trans hpo.symm)
        simp [hko, hne]
      · simpa [List.find?_cons, beq_false_of_ne hko] using ih

/-- What is no directory can be replaced. -/
theorem at?_put_self {files : FileTree} {path : Path} (h : files.at? path ≠ some .directory)
    (node : Node) : (files.put path node).at? path = some node := by
  have hway : ¬path.isPrefixOf files.workDir = true := fun hway ↦ h (if_pos hway)
  unfold put at?
  rw [if_neg hway, find?_putEntry, if_pos rfl]

theorem at?_put_of_ne {path other : Path} (h : path ≠ other) (node : Node) (files : FileTree) :
    (files.put path node).at? other = files.at? other := by
  unfold put at?
  rw [find?_putEntry, if_neg h]

end FileTree

end MonitorCore

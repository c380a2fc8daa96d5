import MonitorCore.Settings.Yaml.Cursor

/-!
# Block scalars

A block scalar is a text by indentation: all lines that are indented as far as its first one. Its
header tells whether lines stay apart (`|`) or are folded into one (`>`), how many line ends count
at the end, and, if the first line itself begins with blanks, how far the text is indented.

Folding replaces a line end between two lines by a space, unless one of the lines begins with a
blank or there are empty lines between them.
-/

namespace MonitorCore.Yaml

/-! ## The header -/

/-- Which line ends at the end of a block scalar count. -/
inductive Chomping where
  /-- None does. -/
  | strip
  /-- The first one does. -/
  | clip
  /-- All do. -/
  | keep
  deriving DecidableEq, Repr

/-- The chomping that a text begins with, if it does. -/
def readChomping : List Char → Option Chomping × List Char
  | '+' :: rest => (some .keep, rest)
  | '-' :: rest => (some .strip, rest)
  | cs => (none, cs)

/-- The indentation that a text begins with, if it does; it is a digit, but not zero. -/
def readIndentation : List Char → Option (Option Nat × List Char)
  | [] => some (none, [])
  | c :: rest =>
    if c = '0' then none
    else if c.isDigit then some (some (c.toNat - '0'.toNat), rest)
    else some (none, c :: rest)

/-- The chomping and the indentation of a header, in either order. -/
def readHeader (cs : List Char) : Option (Chomping × Option Nat × List Char) :=
  match readChomping cs with
  | (some chomping, rest) => (readIndentation rest).map fun (n, rest) ↦ (chomping, n, rest)
  | (none, _) =>
    match readIndentation cs with
    | none => none
    | some (none, rest) => some (.clip, none, rest)
    | some (some n, rest) =>
      let (chomping, rest) := readChomping rest
      some (chomping.getD .clip, some n, rest)

/-! ## The lines -/

/-- The cursor behind the indentation of a line: all its spaces, or those in front of a column. -/
def skipIndent (indent : Option Nat) (cur : Cursor) : Cursor :=
  let spaces := (cur.rest.takeWhile (· == ' ')).length
  match indent with
  | none => cur.skip spaces
  | some n => cur.skip (min spaces (n - cur.column))

/-- Goes over empty lines, at most `fuel` of them, and the indentation of the line after them: how
far the text is indented, how many empty lines there were, and the cursor. If the indentation is
still open, it is that of the farthest line, but at least `floor`; `greatest` is that so far. A tab
is no indentation. -/
def skipEmptyLines (floor : Nat) : Nat → Option Nat → Nat → Cursor → Option (Nat × Nat × Cursor)
  | 0, _, _, _ => none
  | fuel + 1, indent, greatest, cur =>
    let cur := skipIndent indent cur
    let greatest := max greatest cur.column
    if cur.rest.head? = some '\t' ∧ indent.all (cur.column < ·) then none
    else if cur.rest.head?.any isBreak then
      (skipEmptyLines floor fuel indent greatest cur.skipBreak).map fun (indent, count, cur) ↦
        (indent, count + 1, cur)
    else some (indent.getD (max greatest (max floor 1)), 0, cur)

/-- The line ends between two lines of a block scalar: that of the first line, if `ended`, and those
of `empty` lines. Folded, the first one becomes a space or, if there are more, nothing. -/
def lineEnds (folded ended : Bool) (empty : Nat) : List Char :=
  let first : List Char :=
    if !ended then [] else if !folded then ['\n'] else if empty = 0 then [' '] else []
  first ++ List.replicate empty '\n'

/-- The lines of a block scalar that the cursor may be at the first one of: their text, whether the
last one ended, how many empty lines follow, and the cursor. `ended` and `empty` tell of the line
ends before, and `blank` whether the line before began with a blank. -/
def readLines (folded : Bool) (indent : Nat) :
    Nat → Bool → Bool → Nat → Cursor → Option (List Char × Bool × Nat × Cursor)
  | 0, _, _, _, _ => none
  | fuel + 1, blank, ended, empty, cur =>
    match cur.rest with
    | [] => some ([], ended, empty, cur)
    | c :: _ =>
      if cur.column ≠ indent then some ([], ended, empty, cur)
      else
        let joint := lineEnds (folded && !blank && !isGap c) ended empty
        let line := cur.rest.takeWhile (!isBreak ·)
        let behind := cur.skip line.length
        if behind.rest.isEmpty then some (joint ++ line, false, 0, behind)
        else
          match skipEmptyLines 0 (behind.rest.length + 1) (some indent) 0 behind.skipBreak with
          | none => none
          | some (_, empty, next) =>
            (readLines folded indent fuel (isGap c) true empty next).map fun (cs, rest) ↦
              (joint ++ line ++ cs, rest)

/-- The line ends at the end of a block scalar that count. -/
def Chomping.tail (chomping : Chomping) (ended : Bool) (empty : Nat) : List Char :=
  let first : List Char := if ended then ['\n'] else []
  match chomping with
  | strip => []
  | clip => first
  | keep => first ++ List.replicate empty '\n'

/-- The block scalar whose header the cursor is at, and the cursor behind it; `floor` is the column
that its text must reach. -/
def readBlock (folded : Bool) (floor : Nat) (cur : Cursor) : Option (List Char × Cursor) := do
  let (chomping, more, rest) ← readHeader (cur.rest.drop 1)
  let cur ← (cur.skipTo rest).skipLine?
  let (indent, empty, cur) ←
    skipEmptyLines floor (cur.rest.length + 1) (more.map fun n ↦ floor - 1 + n) 0 cur
  let (cs, ended, empty, cur) ←
    readLines folded indent (cur.rest.length + 1) false false empty cur
  return (cs ++ chomping.tail ended empty, cur)

end MonitorCore.Yaml

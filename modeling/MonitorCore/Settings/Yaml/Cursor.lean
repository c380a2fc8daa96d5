/-!
# Places in a YAML text

What a character means in YAML depends on where it stands: how far its line is indented, and whether
a line has ended since some earlier place. So the text that is still to be read is kept together
with its place, and both move on at the same time.

A line ends with a line feed, a carriage return, or both; only a line feed sets the column back.
-/

namespace MonitorCore.Yaml

/-! ## Kinds of characters -/

def isGap (c : Char) : Bool := c == ' ' || c == '\t'

def isBreak (c : Char) : Bool := c == '\n' || c == '\r'

def isSpace (c : Char) : Bool := isGap c || isBreak c

/-- Brackets and commas, which divide values in brackets. -/
def isFlowMark (c : Char) : Bool := c ∈ [',', '[', ']', '{', '}']

/-- The characters of the names of anchors, directives and handles. -/
def inName (c : Char) : Bool := c.isAlphanum || c == '_' || c == '-'

/-- Whether a word is over in front of the text. -/
def endsWord (cs : List Char) : Bool := cs.head?.all isSpace

/-- Whether a line is over in front of the text. -/
def endsLine (cs : List Char) : Bool := cs.head?.all isBreak

/-! ## Cursors -/

/-- The text that is still to be read, and its place: how many characters and how many lines are
before it, and how many characters of its own line. -/
structure Cursor where
  rest : List Char
  index : Nat
  line : Nat
  column : Nat
  deriving DecidableEq, Repr

namespace Cursor

/-- The cursor at the start of a text; a zero character ends the text. -/
def start (s : String) : Cursor := ⟨s.toList.takeWhile (· != '\x00'), 0, 0, 0⟩

def next (cur : Cursor) : Cursor :=
  match cur.rest with
  | [] => cur
  | c :: rest =>
    if c = '\n' then ⟨rest, cur.index + 1, cur.line + 1, 0⟩
    else ⟨rest, cur.index + 1, cur.line, cur.column + 1⟩

def skip : Nat → Cursor → Cursor
  | 0, cur => cur
  | n + 1, cur => skip n cur.next

/-- The cursor where the given end of its text is left. -/
def skipTo (rest : List Char) (cur : Cursor) : Cursor := cur.skip (cur.rest.length - rest.length)

/-- The cursor behind the characters of a kind. -/
def skipWhile (p : Char → Bool) (cur : Cursor) : Cursor := cur.skip (cur.rest.takeWhile p).length

def skipBreak (cur : Cursor) : Cursor :=
  match cur.rest with
  | '\r' :: '\n' :: _ => cur.skip 2
  | c :: _ => if isBreak c then cur.next else cur
  | [] => cur

/-- The cursor behind blanks and a comment. -/
def skipComment (cur : Cursor) : Cursor :=
  let cur := cur.skipWhile isGap
  if cur.rest.head? = some '#' then cur.skipWhile (!isBreak ·) else cur

/-- The cursor behind the rest of a line, on which there may only be a comment. -/
def skipLine? (cur : Cursor) : Option Cursor :=
  let cur := cur.skipComment
  if endsLine cur.rest then some cur.skipBreak else none

/-- Whether a line begins here with three of a character and a word that is over then. -/
def isMark (c : Char) (cur : Cursor) : Bool :=
  cur.column == 0 && cur.rest.take 3 == [c, c, c] && endsWord (cur.rest.drop 3)

/-- Whether a document begins or ends here. -/
def isEdge (cur : Cursor) : Bool := cur.isMark '-' || cur.isMark '.'

end Cursor

end MonitorCore.Yaml

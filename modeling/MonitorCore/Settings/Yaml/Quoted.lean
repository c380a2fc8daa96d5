import MonitorCore.Settings.Yaml.Gap
import MonitorCore.Text.Numbered

/-!
# Quoted scalars

Between single quotes every character stands for itself, and a quote is written twice. Between
double quotes a backslash escapes. In both a text may go over several lines, which are joined as
`Gap` says, but not over the edge of the document.
-/

namespace MonitorCore.Yaml

/-- The two kinds of quotes. -/
inductive Quote where
  | single
  | double
  deriving DecidableEq, Repr

namespace Quote

def mark : Quote → Char
  | single => '\''
  | double => '"'

end Quote

/-- The characters that a letter stands for after a backslash. -/
def escapeLetters : List (Char × Char) :=
  [('0', '\x00'), ('a', '\x07'), ('b', '\x08'), ('t', '\t'), ('\t', '\t'), ('n', '\n'),
   ('v', '\x0b'), ('f', '\x0c'), ('r', '\r'), ('e', '\x1b'), (' ', ' '), ('"', '"'), ('\'', '\''),
   ('\\', '\\'), ('N', '\x85'), ('_', '\xa0'), ('L', '\u2028'), ('P', '\u2029')]

/-- How many digits follow a letter that gives a character by number. -/
def escapeDigits : List (Char × Nat) := [('x', 2), ('u', 4), ('U', 8)]

/-- The character that is escaped at the front of a text, whose backslash has been read. -/
def readEscape : List Char → Option (Char × List Char)
  | [] => none
  | c :: rest =>
    match escapeDigits.lookup c with
    | some count => Text.readNumbered count rest
    | none => (escapeLetters.lookup c).map fun e ↦ (e, rest)

mutual

/-- The rest of a quoted text within a word, and the cursor behind the closing quote; `fuel` bounds
the words and characters. -/
def quotedWord (quote : Quote) : Nat → Cursor → Option (List Char × Cursor)
  | 0, _ => none
  | fuel + 1, cur =>
    match cur.rest with
    | [] => none
    | c :: rest =>
      if isSpace c then
        let (gap, cur) := Gap.start c cur
        quotedGap quote fuel gap cur
      else if c = quote.mark then
        if quote = .single ∧ rest.head? = some c then
          (quotedWord quote fuel (cur.skip 2)).map fun (cs, cur) ↦ (c :: cs, cur)
        else some ([], cur.next)
      else if quote = .double ∧ c = '\\' then
        if rest.head?.any isBreak then quotedGap quote fuel (.lines true 0) cur.next.skipBreak
        else
          match readEscape rest with
          | none => none
          | some (e, rest) =>
            (quotedWord quote fuel (cur.skipTo rest)).map fun (cs, cur) ↦ (e :: cs, cur)
      else (quotedWord quote fuel cur.next).map fun (cs, cur) ↦ (c :: cs, cur)

/-- The rest of a quoted text within a gap. -/
def quotedGap (quote : Quote) : Nat → Gap → Cursor → Option (List Char × Cursor)
  | 0, _, _ => none
  | fuel + 1, gap, cur =>
    match cur.rest with
    | [] => none
    | c :: _ =>
      if isGap c then quotedGap quote fuel (gap.blank c) cur.next
      else if isBreak c then quotedGap quote fuel gap.lineEnd cur.skipBreak
      else if cur.isEdge then none
      else (quotedWord quote fuel cur).map fun (cs, cur) ↦ (gap.text ++ cs, cur)

end

/-- The quoted text whose opening quote the cursor is at, and the cursor behind it. -/
def readQuoted (quote : Quote) (cur : Cursor) : Option (List Char × Cursor) :=
  quotedWord quote (2 * cur.rest.length + 2) cur.next

end MonitorCore.Yaml

import MonitorCore.Settings.Yaml.Gap

/-!
# Plain scalars

A scalar without quotes goes on to a colon that ends a key, to a comment, to the edge of the
document or to a line that is not indented far enough; within brackets it goes on to a bracket or a
comma, however its lines are indented. Its lines are joined as `Gap` says.
-/

namespace MonitorCore.Yaml

/-- Whether a colon in front of the text ends a key. -/
def endsKey (inFlow : Bool) (cs : List Char) : Bool :=
  endsWord cs || (inFlow && cs.head?.any isFlowMark)

/-- Whether a plain scalar is over in front of the text. -/
def endsPlain (inFlow : Bool) : List Char → Bool
  | [] => true
  | c :: rest => (c == ':' && endsKey inFlow rest) || (inFlow && isFlowMark c)

/-- Whether a plain scalar is over behind a gap; outside brackets its lines begin at column `floor`
or farther to the right. -/
def endsBehindGap (inFlow : Bool) (floor : Nat) (cur : Cursor) : Bool :=
  (!inFlow && cur.column < floor) || cur.isEdge || cur.rest.head? == some '#'
    || endsPlain inFlow cur.rest

/-- What was read as a plain scalar: its text, whether a line ended behind it, and the cursor behind
it and the gap after it. -/
structure PlainScalar where
  text : List Char
  lineEnded : Bool
  cursor : Cursor
  deriving DecidableEq, Repr

mutual

/-- The rest of a plain scalar within a word; `fuel` bounds the words and characters. -/
def plainWord (inFlow : Bool) (floor : Nat) : Nat → Cursor → Option PlainScalar
  | 0, _ => none
  | fuel + 1, cur =>
    match cur.rest with
    | [] => some ⟨[], false, cur⟩
    | c :: rest =>
      if isSpace c then
        let (gap, cur) := Gap.start c cur
        plainGap inFlow floor fuel gap cur
      else if endsPlain inFlow (c :: rest) then some ⟨[], false, cur⟩
      else
        (plainWord inFlow floor fuel cur.next).map fun scalar ↦
          { scalar with text := c :: scalar.text }

/-- The rest of a plain scalar within a gap. A line may not be indented by a tab. -/
def plainGap (inFlow : Bool) (floor : Nat) : Nat → Gap → Cursor → Option PlainScalar
  | 0, _, _ => none
  | fuel + 1, gap, cur =>
    match cur.rest with
    | [] => some ⟨[], gap.isLines, cur⟩
    | c :: _ =>
      if isGap c then
        if gap.isLines ∧ c = '\t' ∧ cur.column < floor then none
        else plainGap inFlow floor fuel (gap.blank c) cur.next
      else if isBreak c then plainGap inFlow floor fuel gap.lineEnd cur.skipBreak
      else if endsBehindGap inFlow floor cur then some ⟨[], gap.isLines, cur⟩
      else
        (plainWord inFlow floor fuel cur).map fun scalar ↦
          { scalar with text := gap.text ++ scalar.text }

end

/-- The plain scalar that the cursor is at. -/
def readPlain (inFlow : Bool) (floor : Nat) (cur : Cursor) : Option PlainScalar :=
  plainWord inFlow floor (2 * cur.rest.length + 1) cur

end MonitorCore.Yaml

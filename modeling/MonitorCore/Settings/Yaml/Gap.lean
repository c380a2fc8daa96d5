import MonitorCore.Settings.Yaml.Cursor

/-!
# Gaps between words

A plain or quoted scalar may go over several lines. Blanks between two words on one line stay as
they are; a line end between two words counts as one space, and every line end after it as a line
end, with the blanks around them gone.

In double quotes a line end may be escaped; then it counts as nothing.
-/

namespace MonitorCore.Yaml

/-- What stands between two words of a scalar. -/
inductive Gap where
  /-- Blanks of one line, the last one first. -/
  | blanks (rev : List Char)
  /-- A line end, escaped or not, and so many more of them. -/
  | lines (escaped : Bool) (further : Nat)
  deriving DecidableEq, Repr

namespace Gap

/-- Whether there is a line end in the gap. -/
def isLines : Gap → Bool
  | blanks _ => false
  | lines _ _ => true

def blank (c : Char) : Gap → Gap
  | blanks rev => blanks (c :: rev)
  | lines escaped further => lines escaped further

def lineEnd : Gap → Gap
  | blanks _ => lines false 0
  | lines escaped further => lines escaped (further + 1)

def text : Gap → List Char
  | blanks rev => rev.reverse
  | lines false 0 => [' ']
  | lines _ further => List.replicate further '\n'

/-- The gap that begins with a blank or line end, and the cursor behind that. -/
def start (c : Char) (cur : Cursor) : Gap × Cursor :=
  if isBreak c then (lines false 0, cur.skipBreak) else (blanks [c], cur.next)

end Gap

end MonitorCore.Yaml

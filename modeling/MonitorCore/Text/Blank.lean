import MonitorCore.Text.CodePoints

/-!
# Blanks

The property `White_Space`, and texts without the blanks around them.
-/

namespace MonitorCore.Text

/-- The code points with the property `White_Space`. -/
def blanks : CodePoints :=
  [(0x9, 0xD), (0x20, 0x20), (0x85, 0x85), (0xA0, 0xA0), (0x1680, 0x1680), (0x2000, 0x200A),
   (0x2028, 0x2029), (0x202F, 0x202F), (0x205F, 0x205F), (0x3000, 0x3000)]

/-- Whether `c` is a blank of any script, a line end included. -/
def isBlank (c : Char) : Bool := blanks.has c

/-- The text without the blanks at its end. -/
def trimEnd (cs : List Char) : List Char := (cs.reverse.dropWhile isBlank).reverse

/-- The text without the blanks at both its ends. -/
def trim (cs : List Char) : List Char := trimEnd (cs.dropWhile isBlank)

end MonitorCore.Text

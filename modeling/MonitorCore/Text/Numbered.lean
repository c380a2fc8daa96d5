import MonitorCore.Decimal.Numeral

/-!
# Characters by number

Quoted texts of several formats give a character by the hexadecimal digits of its code point, each
with a digit count of its own. Code points of surrogates are no characters.
-/

namespace MonitorCore.Text

/-- The character with the given code point. -/
def charOfNat? (n : Nat) : Option Char :=
  if n < 0xD800 ∨ (0xE000 ≤ n ∧ n < 0x110000) then some (Char.ofNat n) else none

/-- The character whose number of `count` digits stands at the front of a text. -/
def readNumbered (count : Nat) (cs : List Char) : Option (Char × List Char) :=
  if cs.length < count then none
  else
    ((Decimal.ofBase? 16 (cs.take count)).bind charOfNat?).map fun c ↦ (c, cs.drop count)

end MonitorCore.Text

/-!
# Sets of code points

The character classes of the Unicode standard are large but regular, so a class is kept as the
list of its closed ranges. Membership is a search through the list: the tables are consulted for
single characters of short texts, and a list is the form that evaluates inside a proof.
-/

namespace MonitorCore.Text

/-- A set of code points: disjoint closed ranges `(first, last)` in increasing order. -/
abbrev CodePoints := List (Nat × Nat)

/-- Whether the code point of `c` lies in one of the ranges. -/
def CodePoints.has (set : CodePoints) (c : Char) : Bool :=
  set.any fun range ↦ range.1 ≤ c.toNat && c.toNat ≤ range.2

end MonitorCore.Text

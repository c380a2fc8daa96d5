/-!
# Words

The limits of the integers that fit a machine word. Each is one more than the greatest integer of
its sort.
-/

namespace MonitorCore.Decimal

/-- The limit of integers of 64 bits, `2 ^ 64`. -/
def wordLimit : Nat := 18446744073709551616

/-- The limit of integers of 63 bits and a sign, `2 ^ 63`; the least of them is minus the limit. -/
def signedLimit : Nat := 9223372036854775808

/-- The limit of integers of 31 bits and a sign, `2 ^ 31`. -/
def shortLimit : Nat := 2147483648

/-- The integer of a sign and a magnitude, if 63 bits and the sign hold it. -/
def signed? (negative : Bool) (magnitude : Nat) : Option Int :=
  if negative then if magnitude ≤ signedLimit then some (-(magnitude : Int)) else none
  else if magnitude < signedLimit then some (magnitude : Int) else none

end MonitorCore.Decimal

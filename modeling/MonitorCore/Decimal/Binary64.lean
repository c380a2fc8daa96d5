/-!
# Double precision numbers

A finite double is `± mantissa · 2 ^ exponent`, so its arithmetic is arithmetic of natural numbers
followed by one rounding. All operations go through `ofRatio`, which rounds an exact quotient to the
nearest double, a quotient half-way between two doubles going to the one with an even mantissa.
-/

namespace MonitorCore.Decimal

/-- A double. The mantissa of a finite one is below `2 ^ 53` and its exponent at least `-1074`; a
mantissa below `2 ^ 52` occurs with exponent `-1074` only. -/
inductive Binary64 where
  | finite (negative : Bool) (mantissa : Nat) (exponent : Int)
  | infinite (negative : Bool)
  | nan
  deriving DecidableEq, Repr

/-- The least mantissa that has all 53 bits, `2 ^ 52`. -/
def leastFull : Nat := 4503599627370496

/-- `num / den` rounded to the nearest natural number, a half going to the even neighbour. -/
def roundHalfEven (num den : Nat) : Nat :=
  let quotient := num / den
  let rest := num % den
  if 2 * rest < den then quotient
  else if den < 2 * rest then quotient + 1
  else quotient + quotient % 2

/-- The quotient `num / den` divided by `base ^ power`, again as a quotient. -/
def shiftRatio (base : Nat) (num den : Nat) (power : Int) : Nat × Nat :=
  if 0 ≤ power then (num, den * Nat.pow base power.toNat)
  else (num * Nat.pow base (-power).toNat, den)

namespace Binary64

/-- The exponent at which `num / den` has a mantissa of 53 bits, or the least exponent of a double
if that is greater. -/
def exponentOf (num den : Nat) : Int :=
  let logs : Int := num.log2 - den.log2
  let (n, d) := shiftRatio 2 num den logs
  max (-1074) (if d ≤ n then logs - 52 else logs - 53)

/-- The double nearest to `± num / den`; beyond the range of doubles it is infinite. -/
def ofRatio (negative : Bool) (num den : Nat) : Binary64 :=
  if num = 0 then .finite negative 0 (-1074)
  else
    let exponent := exponentOf num den
    let (n, d) := shiftRatio 2 num den exponent
    let rounded := roundHalfEven n d
    let (mantissa, exponent) :=
      if rounded = 2 * leastFull then (leastFull, exponent + 1) else (rounded, exponent)
    if 971 < exponent then .infinite negative else .finite negative mantissa exponent

/-- The double nearest to `± (num / den) · 2 ^ power`. -/
def ofDyadic (negative : Bool) (num den : Nat) (power : Int) : Binary64 :=
  let (n, d) := shiftRatio 2 num den (-power)
  ofRatio negative n d

/-- The double nearest to a natural number. -/
def ofNat (n : Nat) : Binary64 := ofRatio false n 1

def ofInt (i : Int) : Binary64 := ofRatio (i < 0) i.natAbs 1

/-- The double nearest to `± digits · 10 ^ power`. Powers that are out of range whatever the digits
are not computed. -/
def ofDecimal (negative : Bool) (digits : Nat) (power : Int) : Binary64 :=
  if digits = 0 then .finite negative 0 (-1074)
  else if 400 < power then .infinite negative
  else if power + (Nat.toDigits 10 digits).length < -400 then .finite negative 0 (-1074)
  else
    let (n, d) := shiftRatio 10 digits 1 (-power)
    ofRatio negative n d

def neg : Binary64 → Binary64
  | .finite negative mantissa exponent => .finite (!negative) mantissa exponent
  | .infinite negative => .infinite (!negative)
  | .nan => .nan

/-- The product of two finite doubles; other operands have none here. -/
def mul : Binary64 → Binary64 → Binary64
  | .finite s m e, .finite s' m' e' => ofDyadic (s != s') (m * m') 1 (e + e')
  | _, _ => .nan

/-- The quotient of a finite double by a finite double other than zero; other operands have none
here. -/
def div : Binary64 → Binary64 → Binary64
  | .finite s m e, .finite s' m' e' =>
    if m' = 0 then .nan else ofDyadic (s != s') m m' (e - e')
  | _, _ => .nan

/-- Whether the double is zero of either sign. -/
def isZero : Binary64 → Bool
  | .finite _ 0 _ => true
  | _ => false

def isInfinite : Binary64 → Bool
  | .infinite _ => true
  | _ => false

end Binary64

end MonitorCore.Decimal

import MonitorCore.Decimal.Binary64

/-!
# Shortest decimal forms

The decimal form of a double has as few digits as identify it: of the decimals that round to the
double those with the fewest digits are taken, and of these the nearest. For a number of digits only
the two decimals around the double need to be looked at, since if any decimal of that length rounds
to the double, one of the two does.

How the digits are laid out (where positional notation ends, whether a whole number shows a point)
is a `Layout`, chosen by the text in which the number stands.
-/

namespace MonitorCore.Decimal

/-- The decimal `0.d₁d₂… · 10 ^ point`. -/
structure Digits where
  digits : List Char
  point : Int
  deriving DecidableEq, Repr

/-- A positive double as a quotient, between the two ends of the interval that rounds to it. All
three have the denominator `den`; the ends belong to the interval if `closed`. -/
structure Interval where
  low : Nat
  value : Nat
  high : Nat
  den : Nat
  closed : Bool
  deriving Repr

/-- The interval of a positive double. The double below a power of two is half as far away as the
double above it. -/
def Interval.of (mantissa : Nat) (exponent : Int) : Interval :=
  let below := if mantissa = leastFull && exponent != -1074 then 1 else 2
  let (unit, den) := shiftRatio 2 1 1 (-(exponent - 2))
  { low := (4 * mantissa - below) * unit
    value := 4 * mantissa * unit
    high := (4 * mantissa + 2) * unit
    den := den
    closed := mantissa % 2 == 0 }

/-- The `k` with `10 ^ (k - 1) ≤ value < 10 ^ k`, from the binary logarithm and one comparison. -/
def Interval.point (i : Interval) : Int :=
  let logs : Int := i.value.log2 - i.den.log2 - 1
  let estimate := (logs * 30103).fdiv 100000
  let reaches (k : Int) : Bool :=
    let (n, d) := shiftRatio 10 i.value i.den k
    d ≤ n
  if reaches (estimate + 2) then estimate + 3
  else if reaches (estimate + 1) then estimate + 2
  else estimate + 1

/-- The multiple of `10 ^ power` that lies in the interval and is nearest to the value, as its
factor. Of two that are equally near, the greater one is taken if `tieUp`, else the even one. -/
def Interval.nearest? (tieUp : Bool) (i : Interval) (power : Int) : Option Nat :=
  let (scale, den) := shiftRatio 10 1 i.den power
  let factor := i.value * scale / den
  let rest := i.value * scale % den
  let inside (n : Nat) : Bool :=
    if i.closed then i.low * scale ≤ n * den && n * den ≤ i.high * scale
    else i.low * scale < n * den && n * den < i.high * scale
  let up :=
    if 2 * rest = den then tieUp || factor % 2 == 1 else den < 2 * rest
  match inside factor, inside (factor + 1) with
  | true, true => some (if up then factor + 1 else factor)
  | true, false => some factor
  | false, true => some (factor + 1)
  | false, false => none

/-- The digits of `factor · 10 ^ power`, without zeros at the end. -/
def Digits.of (factor : Nat) (power : Int) : Digits :=
  let all := Nat.toDigits 10 factor
  { digits := (all.reverse.dropWhile (· == '0')).reverse
    point := power + all.length }

/-- The shortest digits of a positive double; seventeen digits always suffice. -/
def shortest (tieUp : Bool) (mantissa : Nat) (exponent : Int) : Digits :=
  let i := Interval.of mantissa exponent
  let point := i.point
  let found := (List.range 17).findSome? fun (n : Nat) ↦
    let power := point - (n + 1 : Nat)
    (i.nearest? tieUp power).map fun factor ↦ Digits.of factor power
  found.getD ⟨['0'], 1⟩

/-! ## Layouts -/

/-- How a double is written. -/
structure Layout where
  /-- Of two equally near decimals, take the greater one instead of the even one. -/
  tieUp : Bool
  /-- The decimal exponents written positionally; none means all of them. -/
  positional : Option (Int × Int)
  /-- Whether a whole number ends in `.0`. -/
  wholeShowsPoint : Bool

def Digits.positional (wholeShowsPoint : Bool) (d : Digits) : List Char :=
  let count : Int := d.digits.length
  if d.point ≤ 0 then '0' :: '.' :: List.replicate (-d.point).toNat '0' ++ d.digits
  else if count ≤ d.point then
    d.digits ++ List.replicate (d.point - count).toNat '0'
      ++ (if wholeShowsPoint then ['.', '0'] else [])
  else d.digits.take d.point.toNat ++ '.' :: d.digits.drop d.point.toNat

/-- Digits in scientific notation, with a sign and at least two digits in the exponent. -/
def Digits.scientific (d : Digits) : List Char :=
  let exponent := d.point - 1
  let size := Nat.toDigits 10 exponent.natAbs
  d.digits.take 1 ++ (if d.digits.length ≤ 1 then [] else '.' :: d.digits.drop 1)
    ++ 'e' :: (if exponent < 0 then '-' else '+')
    :: List.replicate (2 - size.length) '0' ++ size

def Layout.write (layout : Layout) : Binary64 → String
  | .nan => "NaN"
  | .infinite negative => if negative then "-inf" else "inf"
  | .finite negative mantissa exponent =>
    let d := if mantissa = 0 then ⟨['0'], 1⟩ else shortest layout.tieUp mantissa exponent
    let text :=
      match layout.positional with
      | none => d.positional layout.wholeShowsPoint
      | some (least, greatest) =>
        if least ≤ d.point - 1 && d.point - 1 ≤ greatest then d.positional layout.wholeShowsPoint
        else d.scientific
    String.ofList (if negative then '-' :: text else text)

/-- A double by itself: every digit positional, whole numbers without a point. -/
def plain : Layout := { tieUp := true, positional := none, wholeShowsPoint := false }

end MonitorCore.Decimal

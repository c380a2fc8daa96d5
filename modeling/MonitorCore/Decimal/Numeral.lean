import MonitorCore.Decimal.Binary64
import MonitorCore.Decimal.Word

/-!
# Decimal numerals

Texts that name a number: digits with a sign, a point and an exponent, or the names of infinity
and of what is no number. A numeral for a double is rounded once, to the nearest double.
-/

namespace MonitorCore.Decimal

def ofDigitChars (cs : List Char) : Nat :=
  cs.foldl (fun n c ↦ n * 10 + (c.toNat - '0'.toNat)) 0

/-- The value of a digit; after nine come the letters, capital or small. -/
def digitValue? (c : Char) : Option Nat :=
  if '0' ≤ c ∧ c ≤ '9' then some (c.toNat - '0'.toNat)
  else if 'a' ≤ c ∧ c ≤ 'z' then some (c.toNat - 'a'.toNat + 10)
  else if 'A' ≤ c ∧ c ≤ 'Z' then some (c.toNat - 'A'.toNat + 10)
  else none

/-- The number with the given digits in a base. -/
def ofBase? (base : Nat) (cs : List Char) : Option Nat :=
  cs.foldlM (fun n c ↦
    (digitValue? c).bind fun d ↦ if d < base then some (n * base + d) else none) 0

/-- A sign at the front of a text: whether it is a minus, and the text after it. -/
def splitSign : List Char → Bool × List Char
  | '-' :: rest => (true, rest)
  | '+' :: rest => (false, rest)
  | cs => (false, cs)

/-- The integer of 64 bits that a text names, with a sign or without. -/
def readInt64? (cs : List Char) : Option Int :=
  let (negative, digits) := splitSign cs
  if digits.isEmpty || !digits.all Char.isDigit then none
  else signed? negative (ofDigitChars digits)

/-- The exponent that ends a numeral; a numeral without one has the exponent zero. -/
def readPower? : List Char → Option Int
  | [] => some 0
  | c :: rest =>
    let (negative, digits) := splitSign rest
    if (c = 'e' ∨ c = 'E') ∧ ¬ digits.isEmpty ∧ digits.all Char.isDigit then
      some (if negative then -ofDigitChars digits else ofDigitChars digits)
    else none

/-- The double that an unsigned numeral names. -/
def readUnsigned? (negative : Bool) (cs : List Char) : Option Binary64 :=
  let whole := cs.takeWhile Char.isDigit
  let (fraction, rest) : List Char × List Char :=
    match cs.dropWhile Char.isDigit with
    | '.' :: rest => (rest.takeWhile Char.isDigit, rest.dropWhile Char.isDigit)
    | rest => ([], rest)
  if whole.isEmpty && fraction.isEmpty then none
  else
    (readPower? rest).map fun power ↦
      Binary64.ofDecimal negative (ofDigitChars (whole ++ fraction)) (power - fraction.length)

/-- The names of doubles that have no numeral, in small letters. -/
def namedDouble? (negative : Bool) (name : String) : Option Binary64 :=
  if name = "inf" ∨ name = "infinity" then some (.infinite negative)
  else if name = "nan" then some .nan
  else none

def readDouble? (cs : List Char) : Option Binary64 :=
  let (negative, rest) := splitSign cs
  match namedDouble? negative (String.ofList (rest.map Char.toLower)) with
  | some x => some x
  | none => readUnsigned? negative rest

end MonitorCore.Decimal

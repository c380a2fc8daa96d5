import MonitorCore.Decimal.Numeral
import MonitorCore.Json.Mismatch

/-!
# The lexemes of JSON text

Blanks, words, strings and numbers, read from the front of a text.

A string is read in two steps: its *units*, which are characters and code units given by number,
and then its characters, where two code units may form one character. Text that is only skipped
takes the first step alone, so it may hold code units that form no character.

A number is read in two steps too: its digits, and then its value.
-/

namespace MonitorCore.Json

open MonitorCore.Decimal (Binary64 ofBase? wordLimit signedLimit shortLimit)

/-! ## Blanks and words -/

/-- The four blanks of JSON. -/
def isGap (c : Char) : Bool := c == ' ' || c == '\n' || c == '\t' || c == '\r'

/-- The text from its first character that is no blank. -/
def skipGaps (cs : List Char) : List Char := cs.dropWhile isGap

/-- Passes a word that must stand at the front. -/
def expectWord : List Char → List Char → Reading Unit
  | [], cs => .ok ((), cs)
  | _ :: _, [] => .error .malformed
  | w :: word, c :: cs => if w = c then expectWord word cs else .error .malformed

/-- Passes a character that must be the next one but for blanks. -/
def expectMark (mark : Char) (cs : List Char) : Reading Unit :=
  match skipGaps cs with
  | [] => .error .malformed
  | c :: rest => if c = mark then .ok ((), rest) else .error .malformed

/-! ## Strings -/

/-- A piece of a string: a character, or a code unit given by number. -/
inductive StringUnit where
  | char (c : Char)
  | code (n : Nat)
  deriving DecidableEq, Repr

/-- The character that stands for itself or is named by a letter after a backslash. -/
def escapedChar? (c : Char) : Option Char :=
  match c with
  | '"' => some '"'
  | '\\' => some '\\'
  | '/' => some '/'
  | 'b' => some '\x08'
  | 'f' => some '\x0c'
  | 'n' => some '\n'
  | 'r' => some '\r'
  | 't' => some '\t'
  | _ => none

/-- The units up to the closing quotation mark, and the text after it. Control characters must be
escaped. -/
def readUnits : List Char → Reading (List StringUnit)
  | [] => .error .malformed
  | '"' :: rest => .ok ([], rest)
  | '\\' :: 'u' :: a :: b :: c :: d :: rest =>
    match ofBase? 16 [a, b, c, d] with
    | none => .error .malformed
    | some n => (readUnits rest).map (.code n :: ·)
  | '\\' :: c :: rest =>
    match escapedChar? c with
    | none => .error .malformed
    | some c => (readUnits rest).map (.char c :: ·)
  | c :: rest =>
    if c.toNat < 0x20 || c = '\\' then .error .malformed
    else (readUnits rest).map (.char c :: ·)

/-- Whether a code unit is the first half of a character. -/
def isLeading (n : Nat) : Bool := 0xD800 ≤ n && n < 0xDC00

/-- Whether a code unit is the second half of a character. -/
def isTrailing (n : Nat) : Bool := 0xDC00 ≤ n && n < 0xE000

/-- The characters of a string; none if a half stands alone. -/
def joinUnits : List StringUnit → Option (List Char)
  | [] => some []
  | .char c :: rest => (joinUnits rest).map (c :: ·)
  | .code n :: .code k :: rest =>
    if isLeading n then
      if isTrailing k then
        (joinUnits rest).map (Char.ofNat (0x10000 + (n - 0xD800) * 0x400 + (k - 0xDC00)) :: ·)
      else none
    else if isTrailing n then none
    else (joinUnits (.code k :: rest)).map (Char.ofNat n :: ·)
  | .code n :: rest =>
    if isLeading n || isTrailing n then none
    else (joinUnits rest).map (Char.ofNat n :: ·)

/-- A string whose opening quotation mark has been read. -/
def readString (cs : List Char) : Reading String :=
  (readUnits cs).andThen fun units rest ↦
    match joinUnits units with
    | none => .error .malformed
    | some chars => .ok (String.ofList chars, rest)

/-! ## Numbers -/

/-- The parts of a number: its digits before and after the point, and the sign and digits of its
exponent. -/
structure Numeral where
  negative : Bool
  whole : List Nat
  fraction : List Nat
  exponent : Option (Bool × List Nat)
  deriving DecidableEq, Repr

/-- The digits at the front of a text, and the text after them. -/
def takeDigits (cs : List Char) : List Nat × List Char :=
  ((cs.takeWhile Char.isDigit).map fun c ↦ c.toNat - '0'.toNat, cs.dropWhile Char.isDigit)

/-- The digits after the point, if there is one; then there must be a digit. -/
def readFraction : List Char → Reading (List Nat)
  | '.' :: rest =>
    match takeDigits rest with
    | ([], _) => .error .malformed
    | taken => .ok taken
  | cs => .ok ([], cs)

/-- The sign of an exponent: whether it is negative. -/
def readSign : List Char → Bool × List Char
  | '-' :: rest => (true, rest)
  | '+' :: rest => (false, rest)
  | cs => (false, cs)

/-- The exponent, if there is one; then there must be a digit. -/
def readExponent : List Char → Reading (Option (Bool × List Nat))
  | [] => .ok (none, [])
  | c :: rest =>
    if c = 'e' ∨ c = 'E' then
      let (negative, rest) := readSign rest
      match takeDigits rest with
      | ([], _) => .error .malformed
      | (digits, rest) => .ok (some (negative, digits), rest)
    else .ok (none, c :: rest)

/-- The parts of the number at the front of a text. A zero before other digits is refused. -/
def readNumeral (cs : List Char) : Reading Numeral :=
  let (negative, unsigned) : Bool × List Char :=
    match cs with
    | '-' :: rest => (true, rest)
    | cs => (false, cs)
  match takeDigits unsigned with
  | ([], _) => .error .malformed
  | (0 :: _ :: _, _) => .error .malformed
  | (whole, rest) =>
    (readFraction rest).andThen fun fraction rest ↦
      (readExponent rest).map fun exponent ↦ ⟨negative, whole, fraction, exponent⟩

/-- Takes digits into a number as long as it stays below `2 ^ 64`; the other digits are left. -/
def absorb (significand : Nat) : List Nat → Nat × List Nat
  | [] => (significand, [])
  | digit :: digits =>
    let next := significand * 10 + digit
    if next < wordLimit then absorb next digits else (significand, digit :: digits)

/-- The number with the given decimal digits. -/
def ofDigits (digits : List Nat) : Nat := digits.foldl (fun n digit ↦ n * 10 + digit) 0

/-- The double `10 ^ n`. -/
def tenTo (n : Nat) : Binary64 := Binary64.ofDecimal false 1 n

/-- A significand times a power of ten, rounded twice: the significand to a double, and then its
product or quotient by the power. None if the result is beyond the range of doubles. Powers beyond
that range divide in two steps. -/
def scaleByTen (significand : Nat) (power : Int) : Option Binary64 :=
  let x := Binary64.ofNat significand
  if 0 ≤ power then
    if significand = 0 then some x
    else if 308 < power then none
    else
      let y := x.mul (tenTo power.toNat)
      if y.isInfinite then none else some y
  else
    let n := power.natAbs
    if n ≤ 308 then some (x.div (tenTo n))
    else if n ≤ 616 then some ((x.div (tenTo 308)).div (tenTo (n - 308)))
    else some (Binary64.ofNat 0)

/-- The value of a number that is no integer. -/
def Numeral.float? (numeral : Numeral) : Option Binary64 :=
  let (significand, surplus) := absorb 0 numeral.whole
  let (significand, dropped) := absorb significand numeral.fraction
  let power : Int := surplus.length - (numeral.fraction.length - dropped.length : Nat)
  match numeral.exponent with
  | none => scaleByTen significand power
  | some (negative, digits) =>
    let exponent := ofDigits digits
    if exponent < shortLimit then
      scaleByTen significand (if negative then power - exponent else power + exponent)
    else if significand = 0 ∨ negative then some (Binary64.ofNat 0)
    else none

/-- The value of a number: whole numbers in the range of integers are integers, all others are
doubles, and so is minus zero. None if the number is beyond the range of doubles. -/
def Numeral.value? (numeral : Numeral) : Option Number :=
  let isWhole := numeral.fraction.isEmpty && numeral.exponent.isNone
  let n := ofDigits numeral.whole
  if isWhole ∧ ¬ numeral.negative ∧ n < wordLimit then some (.integer n)
  else if isWhole ∧ numeral.negative ∧ 0 < n ∧ n ≤ signedLimit then some (.integer (-n))
  else numeral.float?.map fun x ↦ .float (if numeral.negative then x.neg else x)

def readNumber (cs : List Char) : Reading Number :=
  (readNumeral cs).andThen fun numeral rest ↦
    match numeral.value? with
    | none => .error .malformed
    | some n => .ok (n, rest)

/-- Whether a number begins with the character. -/
def startsNumber (c : Char) : Bool := c == '-' || c.isDigit

end MonitorCore.Json

import MonitorCore.Json.Value

/-!
# Compact JSON text

A value is written without blanks. A string escapes the quotation mark, the backslash and the
control characters below U+0020, those with a letter of their own by that letter; everything else
stands as it is.
-/

namespace MonitorCore.Json

open MonitorCore.Decimal (Layout)

/-- Doubles in JSON text and in messages about it: positional for decimal exponents from `-5` to
`15`, and whole numbers with a point. -/
def floatLayout : Layout :=
  { tieUp := false, positional := some (-5, 15), wholeShowsPoint := true }

/-- The two hexadecimal digits of a number below 256. -/
def hexPair (n : Nat) : List Char := [Nat.digitChar (n / 16), Nat.digitChar (n % 16)]

def escapeChar (c : Char) : List Char :=
  match c with
  | '"' => ['\\', '"']
  | '\\' => ['\\', '\\']
  | '\n' => ['\\', 'n']
  | '\r' => ['\\', 'r']
  | '\t' => ['\\', 't']
  | '\x08' => ['\\', 'b']
  | '\x0c' => ['\\', 'f']
  | c => if c.toNat < 0x20 then '\\' :: 'u' :: '0' :: '0' :: hexPair c.toNat else [c]

/-- A JSON string with its quotation marks. -/
def printString (s : String) : List Char :=
  '"' :: s.toList.flatMap escapeChar ++ ['"']

def printInt (i : Int) : List Char :=
  if i < 0 then '-' :: Nat.toDigits 10 i.natAbs else Nat.toDigits 10 i.natAbs

/-- A number; a double without a number of its own is null. -/
def Number.print : Number → List Char
  | .integer i => printInt i
  | .float x =>
    match x with
    | .finite .. => (floatLayout.write x).toList
    | _ => ['n', 'u', 'l', 'l']

/-- The texts of the items of a list, divided by commas. -/
def commaSeparated : List (List Char) → List Char
  | [] => []
  | [item] => item
  | item :: items => item ++ ',' :: commaSeparated items

namespace Value

mutual

def print : Value → List Char
  | .null => ['n', 'u', 'l', 'l']
  | .bool true => ['t', 'r', 'u', 'e']
  | .bool false => ['f', 'a', 'l', 's', 'e']
  | .number n => n.print
  | .text s => printString s
  | .array items => '[' :: commaSeparated (printItems items) ++ [']']
  | .object members => '{' :: commaSeparated (printMembers members) ++ ['}']

def printItems : List Value → List (List Char)
  | [] => []
  | item :: items => print item :: printItems items

/-- The texts of the members of an object. -/
def printMembers : List (String × Value) → List (List Char)
  | [] => []
  | (key, value) :: members => (printString key ++ ':' :: print value) :: printMembers members

end

/-- The compact text of a value, as a string. -/
def compact (v : Value) : String := String.ofList v.print

end Value

end MonitorCore.Json

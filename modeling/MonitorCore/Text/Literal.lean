/-!
# Literals of fixed types

Reading a whole text as an integer of a given width, as a truth value or as one character, with
the reason why it is none. An integer is read digit by digit, so of an alien character and an
overflow the one further left is the reason.
-/

namespace MonitorCore.Text

/-- Why a text is no literal of its type. -/
inductive LiteralError where
  | emptyInteger
  | invalidDigit
  | tooLarge
  | tooSmall
  | notBoolean
  | emptyCharacter
  | manyCharacters
  deriving DecidableEq, Repr

def LiteralError.message : LiteralError → String
  | emptyInteger => "cannot parse integer from empty string"
  | invalidDigit => "invalid digit found in string"
  | tooLarge => "number too large to fit in target type"
  | tooSmall => "number too small to fit in target type"
  | notBoolean => "provided string was not `true` or `false`"
  | emptyCharacter => "cannot parse char from empty string"
  | manyCharacters => "too many characters in string"

/-- Reads digits into a number that may not exceed `limit`; `beyond` is the reason if it would. -/
def readDigits (limit : Nat) (beyond : LiteralError) (n : Nat) :
    List Char → Except LiteralError Nat
  | [] => .ok n
  | c :: cs =>
    if c.isDigit then
      let next := n * 10 + (c.toNat - '0'.toNat)
      if limit < next then .error beyond else readDigits limit beyond next cs
    else .error .invalidDigit

/-- An integer from `-least` to `greatest`, with a sign or without; a minus sign counts only if
there are negative integers in the range. -/
def readInteger (least greatest : Nat) (s : String) : Except LiteralError Int :=
  let positive (cs : List Char) : Except LiteralError Int :=
    (readDigits greatest .tooLarge 0 cs).map fun n ↦ n
  match s.toList with
  | [] => .error .emptyInteger
  | ['+'] => .error .invalidDigit
  | ['-'] => .error .invalidDigit
  | '+' :: cs => positive cs
  | '-' :: cs =>
    if least = 0 then .error .invalidDigit
    else (readDigits least .tooSmall 0 cs).map fun n ↦ -n
  | cs => positive cs

def readBoolean (s : String) : Except LiteralError Bool :=
  if s = "true" then .ok true else if s = "false" then .ok false else .error .notBoolean

def readCharacter (s : String) : Except LiteralError Char :=
  match s.toList with
  | [] => .error .emptyCharacter
  | [c] => .ok c
  | _ => .error .manyCharacters

end MonitorCore.Text

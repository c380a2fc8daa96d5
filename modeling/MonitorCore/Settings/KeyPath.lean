import MonitorCore.Decimal.Numeral

/-!
# Key paths

A key path leads into a tree of tables and lists: a name, then names after points and indices in
brackets. A negative index counts from the end of the list.

A text that is no such path counts as a single name.
-/

namespace MonitorCore

/-- The way into a tree, outermost name first. -/
inductive KeyPath where
  | top (key : String)
  | child (parent : KeyPath) (key : String)
  | item (parent : KeyPath) (index : Int)
  deriving DecidableEq, Repr

namespace KeyPath

/-- Whether a name in a path may have the character. -/
def inName (c : Char) : Bool := c.isAlphanum || c == ' ' || c == '_' || c == '-'

/-- Whether the character may stand around an index. -/
def aroundIndex (c : Char) : Bool := c == ' ' || c == '\t'

/-- The index at the front of a text whose opening bracket has been read, and the text after the
closing one. Indices have 64 bits with a sign. -/
def readIndex (cs : List Char) : Option (Int × List Char) :=
  let (negative, digits) : Bool × List Char :=
    match cs.dropWhile aroundIndex with
    | '-' :: rest => (true, rest)
    | rest => (false, rest)
  let number := digits.takeWhile Char.isDigit
  match number, (digits.dropWhile Char.isDigit).dropWhile aroundIndex with
  | _ :: _, ']' :: rest =>
    (Decimal.signed? negative (Decimal.ofDigitChars number)).map fun index ↦ (index, rest)
  | _, _ => none

/-- Reads the steps that follow a path, at most `fuel` of them. -/
def readSteps : Nat → KeyPath → List Char → Option KeyPath
  | _, path, [] => some path
  | 0, _, _ => none
  | fuel + 1, path, '.' :: cs =>
    match cs.takeWhile inName with
    | [] => none
    | name => readSteps fuel (.child path (String.ofList name)) (cs.dropWhile inName)
  | fuel + 1, path, '[' :: cs =>
    match readIndex cs with
    | none => none
    | some (index, rest) => readSteps fuel (.item path index) rest
  | _, _, _ => none

def read? (s : String) : Option KeyPath :=
  match s.toList.takeWhile inName with
  | [] => none
  | name =>
    readSteps s.toList.length (.top (String.ofList name)) (s.toList.dropWhile inName)

def ofText (s : String) : KeyPath := (read? s).getD (.top s)

end KeyPath

end MonitorCore

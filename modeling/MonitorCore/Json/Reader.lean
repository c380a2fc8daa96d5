import MonitorCore.Json.Lexeme

/-!
# Reading JSON values

One loop, `foldItems`, walks over the items between two brackets; what an item is (an element, a
member, a member that is skipped) is the loop's step. Each item takes a character at least, so the
text itself serves as the fuel of the loop: one of its characters is spent on each item.

A value is built down to a fixed depth of nesting. A value that is only skipped may be nested
without limit, and neither the range of its numbers nor the halves of its characters are looked
at.
-/

namespace MonitorCore.Json

/-! ## Items between brackets -/

/-- Looks for a further item: true with the text where it begins, or false with the text after the
closing bracket. Before every item but the first there is a comma, and none before the bracket. -/
def moreItems (close : Char) (first : Bool) (cs : List Char) : Reading Bool :=
  match skipGaps cs with
  | [] => .error .malformed
  | c :: rest =>
    if c = close then .ok (false, rest)
    else if first then .ok (true, c :: rest)
    else if c = ',' then
      match skipGaps rest with
      | [] => .error .malformed
      | d :: rest => if d = close then .error .malformed else .ok (true, d :: rest)
    else .error .malformed

/-- Folds `step` over the items up to the closing bracket, one character of fuel for each. -/
def foldItems {σ : Type} (close : Char) (step : σ → List Char → Reading σ) :
    List Char → Bool → σ → List Char → Reading σ
  | [], _, _, _ => .error .malformed
  | _ :: fuel, first, state, cs =>
    (moreItems close first cs).andThen fun more rest ↦
      if more then
        (step state rest).andThen fun state rest ↦ foldItems close step fuel false state rest
      else .ok (state, rest)

/-- Folds `step` over all items of a text whose opening bracket has been read. -/
def foldAll {σ : Type} (close : Char) (step : σ → List Char → Reading σ) (state : σ)
    (cs : List Char) : Reading σ :=
  foldItems close step cs true state cs

/-- The key of a member, with the colon after it left to be read. -/
def readKey : List Char → Reading String
  | '"' :: rest => readString rest
  | _ => .error .malformed

/-! ## Values -/

/-- A value that is no array and no object. -/
def readScalar : List Char → Reading Value
  | [] => .error .malformed
  | c :: rest =>
    if c = '"' then (readString rest).map .text
    else if startsNumber c then (readNumber (c :: rest)).map .number
    else if c = 'n' then (expectWord ['u', 'l', 'l'] rest).map fun _ ↦ .null
    else if c = 't' then (expectWord ['r', 'u', 'e'] rest).map fun _ ↦ .bool true
    else if c = 'f' then (expectWord ['a', 'l', 's', 'e'] rest).map fun _ ↦ .bool false
    else .error .malformed

/-- The value at the front of a text, its brackets nested at most `depth` deep. -/
def readValue : Nat → List Char → Reading Value
  | 0, cs => readScalar (skipGaps cs)
  | depth + 1, cs =>
    match skipGaps cs with
    | '[' :: rest =>
      (foldAll ']' (fun (items : Array Value) rest ↦
          (readValue depth rest).map items.push) #[] rest).map
        fun items ↦ .array items.toList
    | '{' :: rest =>
      (foldAll '}' (fun (members : Array (String × Value)) rest ↦
          (readKey rest).andThen fun key rest ↦
            (expectMark ':' rest).andThen fun _ rest ↦
              (readValue depth rest).map fun value ↦ members.push (key, value)) #[] rest).map
        fun members ↦ .object members.toList
    | cs => readScalar cs

/-- The greatest depth of nesting of a value that is built. -/
def depthLimit : Nat := 127

/-- The value of a whole text, members as they stand. -/
def readText (cs : List Char) : Option Value :=
  match readValue depthLimit cs with
  | .ok (value, rest) => if (skipGaps rest).isEmpty then some value else none
  | .error _ => none

/-- The value of a whole text, in canonical form. -/
def parse (s : String) : Option Value := (readText s.toList).map Value.canonical

/-! ## Skipped values -/

/-- Passes a value, one character of fuel for each level of nesting. -/
def skipNested : List Char → List Char → Reading Unit
  | [], _ => .error .malformed
  | _ :: fuel, cs =>
    match skipGaps cs with
    | [] => .error .malformed
    | c :: rest =>
      if c = '[' then foldAll ']' (fun _ rest ↦ skipNested fuel rest) () rest
      else if c = '{' then
        foldAll '}' (fun _ rest ↦
          (expectMark '"' rest).andThen fun _ rest ↦
            (readUnits rest).andThen fun _ rest ↦
              (expectMark ':' rest).andThen fun _ rest ↦ skipNested fuel rest) () rest
      else if c = '"' then (readUnits rest).map fun _ ↦ ()
      else if startsNumber c then (readNumeral (c :: rest)).map fun _ ↦ ()
      else if c = 'n' then expectWord ['u', 'l', 'l'] rest
      else if c = 't' then expectWord ['r', 'u', 'e'] rest
      else if c = 'f' then expectWord ['a', 'l', 's', 'e'] rest
      else .error .malformed

/-- Passes a value. -/
def skipValue (cs : List Char) : Reading Unit := skipNested cs cs

/-! ## Values of the wrong type -/

/-- What stands at the front of a text. A word, a number or a string must be complete; of an array
or an object only the bracket is looked at. -/
def foundAt (cs : List Char) : Except Fault Found :=
  match cs with
  | '[' :: _ => .ok .sequence
  | '{' :: _ => .ok .map
  | cs =>
    match readScalar cs with
    | .ok (value, _) => .ok value.found
    | .error fault => .error fault

/-- Refuses what stands at the front of a text, where `wanted` was expected. -/
def refuse {α : Type} (wanted : String) (cs : List Char) : Reading α :=
  match foundAt cs with
  | .ok found => .error (.mismatch (.wrongType found wanted))
  | .error fault => .error fault

end MonitorCore.Json

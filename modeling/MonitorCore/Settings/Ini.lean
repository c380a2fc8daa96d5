import MonitorCore.Settings.Document
import MonitorCore.Text.Blank
import MonitorCore.Text.Numbered

/-!
# Documents in sections

Lines `key = value`, grouped under headings `[section]`. A section is a table of texts; keys before
the first heading belong to the root. Of equal keys the last one counts, and of equal sections too.
-/

namespace MonitorCore.Ini

open Text (charOfNat? isBlank trim)

/-- The character that a letter after a backslash stands for; other characters stand for
themselves. -/
def escapedChar (c : Char) : Char :=
  match c with
  | '0' => '\x00'
  | 'a' => '\x07'
  | 'b' => '\x08'
  | 't' => '\t'
  | 'r' => '\r'
  | 'n' => '\n'
  | c => c

/-- The character with the given four characters for its number: hexadecimal digits, which may
have a plus sign in place of the first one. -/
def byNumber? : List Char → Option Char
  | '+' :: digits => if digits.isEmpty then none else (Decimal.ofBase? 16 digits).bind charOfNat?
  | digits => (Decimal.ofBase? 16 digits).bind charOfNat?

/-- The characters up to one of those that stop, escapes resolved, and the text from there on. The
end of the text stops only if `endStops`, and not after a backslash. -/
def readUntil (stops : Char → Bool) (endStops : Bool) : List Char → Option (List Char × List Char)
  | [] => if endStops then some ([], []) else none
  | '\\' :: 'x' :: a :: b :: c :: d :: rest =>
    match byNumber? [a, b, c, d] with
    | none => none
    | some e => (readUntil stops endStops rest).map fun (cs, rest) ↦ (e :: cs, rest)
  | ['\\'] => none
  | '\\' :: '\n' :: rest => readUntil stops endStops rest
  | '\\' :: c :: rest =>
    if c = 'x' then none
    else (readUntil stops endStops rest).map fun (cs, rest) ↦ (escapedChar c :: cs, rest)
  | c :: rest =>
    if stops c then some ([], c :: rest)
    else (readUntil stops endStops rest).map fun (cs, rest) ↦ (c :: cs, rest)

def readLine (cs : List Char) : Option (List Char × List Char) :=
  readUntil (fun c ↦ c == '\n' || c == '\r') true cs

/-- A value whose text up to the closing quote counts as it is. -/
def readQuoted (quote : Char) (cs : List Char) : Option (List Char × List Char) :=
  match readUntil (· == quote) false cs with
  | none => none
  | some (inner, rest) => (readLine (rest.drop 1)).map fun (cs, rest) ↦ (inner ++ cs, rest)

def readValue (cs : List Char) : Option (List Char × List Char) :=
  match cs.dropWhile fun c ↦ isBlank c && c != '\n' && c != '\r' with
  | '"' :: rest => readQuoted '"' rest
  | '\'' :: rest => readQuoted '\'' rest
  | rest => readLine rest

/-- The members of the root so far, and the section that is open. -/
structure State where
  members : List (String × Document)
  heading : Option String

/-- Puts a value under a key of the open section. -/
def State.enter (state : State) (key value : String) : State :=
  match state.heading with
  | none => { state with members := Document.enter key (.text value) state.members }
  | some name =>
    let inner := ((List.find? (fun entry ↦ entry.1 == name) state.members).map (·.2.root)).getD []
    { state with
      members := Document.enter name (.table (Document.enter key (.text value) inner))
        state.members }

/-- Reads the lines from a place, at most `fuel` of them. A comment must begin its line, so a line
that is indented and then a comment is malformed; `fresh` tells that a line begins. -/
def readLines : Nat → Bool → State → List Char → Option State
  | 0, _, _, _ => none
  | fuel + 1, fresh, state, cs =>
    match cs with
    | [] => some state
    | c :: rest =>
      if isBlank c then readLines fuel (c == '\n') state rest
      else if c = ';' ∨ c = '#' then
        if fresh then readLines fuel false state (rest.dropWhile (· != '\n')) else none
      else if c = '[' then
        match readUntil (· == ']') false rest with
        | none => none
        | some (name, rest) =>
          let name := String.ofList (trim name)
          readLines fuel false
            { members := Document.enter name (.table []) state.members, heading := some name }
            (rest.drop 1)
      else
        match readUntil (fun c ↦ c == '=' || c == ':') false cs with
        | none => none
        | some (key, rest) =>
          if (trim key).isEmpty then none
          else
            match readValue (rest.drop 1) with
            | none => none
            | some (value, rest) =>
              readLines fuel false
                (state.enter (String.ofList (trim key)) (String.ofList (trim value))) rest

def read (s : String) : Option Document :=
  (readLines (s.toList.length + 1) true ⟨[], none⟩ s.toList).map fun state ↦ .table state.members

end MonitorCore.Ini

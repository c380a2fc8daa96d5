import MonitorCore.Json.Printer
import MonitorCore.Logging.Event

/-!
# Log lines

An event is written as a line of text or as a line of JSON. In both forms the time stands as the
word `TIME`, since no rule depends on it.

A text line names time, level and target and then the fields as `key=value`, except that a field
named `message` shows its value alone. Texts stand in a text line as they are, so a text with line
ends makes the line several lines long; only in messages the characters that could drive a
terminal are escaped.

A JSON line is an object that has the fields among its own members.
-/

namespace MonitorCore

open Json (Value)

/-- The word that stands for the time. -/
def timeMark : String := "TIME"

/-! ## Text lines -/

/-- Whether a character could drive a terminal. -/
def drivesTerminal (c : Char) : Bool :=
  c == '\x1b' || c == '\x07' || c == '\x08' || c == '\x0c' || c == '\x7f'
    || (0x80 ≤ c.toNat && c.toNat < 0xA0)

/-- One character of a message: those that could drive a terminal stand by number. -/
def messageChar (c : Char) : List Char :=
  if drivesTerminal c then
    if c.toNat < 0x80 then '\\' :: 'x' :: Json.hexPair c.toNat
    else '\\' :: 'u' :: '{' :: Nat.toDigits 16 c.toNat ++ ['}']
  else [c]

def messageText (s : String) : String := String.ofList (s.toList.flatMap messageChar)

def FieldValue.inText : FieldValue → String
  | .number n => String.ofList (Nat.toDigits 10 n)
  | .flag b => if b then "true" else "false"
  | .shown s => s

def fieldText (field : String × FieldValue) : String :=
  if field.1 = "message" then messageText field.2.inText
  else field.1 ++ "=" ++ field.2.inText

/-- The name of a level, five characters wide. -/
def Level.aligned (level : Level) : String :=
  String.ofList (List.replicate (5 - level.name.length) ' ') ++ level.name

/-- The line of an event; `thread` is what tells the thread, with a blank after it. -/
def Event.textLine (thread : String) (event : Event) : String :=
  timeMark ++ " " ++ event.level.aligned ++ " " ++ thread ++ event.target ++ ": "
    ++ " ".intercalate (event.fields.map fieldText)

/-- The thread that an event comes from. -/
inductive Thread where
  /-- The one that the process began with. -/
  | main
  /-- One that was started later. The threads of a process are numbered in the order of their start,
  the main one first. -/
  | started (number : Nat)
  deriving DecidableEq, Repr

namespace Thread

def mainNumber : Nat := 1

def number : Thread → Nat
  | main => mainNumber
  | started number => number

/-- The name of a thread; only the main one has a name. -/
def name? : Thread → Option String
  | main => some "main"
  | started _ => none

def twoDigits (n : Nat) : String :=
  let digits := String.ofList (Nat.toDigits 10 n)
  if n < 10 then "0" ++ digits else digits

/-- What tells a thread in a line: its name, if it has one, and its number. -/
def shown (thread : Thread) : String :=
  (match thread.name? with
    | none => ""
    | some name => name ++ " ") ++ "ThreadId(" ++ twoDigits thread.number ++ ") "

end Thread

/-- A line on a text console, which tells the thread. -/
def Event.consoleLine (thread : Thread) (event : Event) : String := event.textLine thread.shown

def Event.fileLine (event : Event) : String := event.textLine ""

/-! ## JSON lines -/

def FieldValue.inJson : FieldValue → Value
  | .number n => .ofNat n
  | .flag b => .bool b
  | .shown s => .text s

def Event.members (event : Event) : List (String × Value) :=
  ("timestamp", .text timeMark) :: ("level", .text event.level.name)
    :: event.fields.map (fun field ↦ (field.1, field.2.inJson))
    ++ [("target", .text event.target)]

def Event.jsonLine (event : Event) : String := (Value.object event.members).compact

end MonitorCore

import MonitorCore.Text.Extending
import MonitorCore.Text.Unprintable

/-!
# Quoted text

A text shown inside a message stands between quotation marks, and what could be misread is escaped:
quotation marks, backslashes, line ends, and every character that has no form of its own or would
change the look of its neighbour. Each character is written on its own, so the quoted form is read
back character by character.
-/

namespace MonitorCore.Text

/-- The lower-case hexadecimal digits of a number. -/
def hex (n : Nat) : List Char := Nat.toDigits 16 n

/-- Writes a character by number, as in `\u{200b}`. -/
def byNumber (c : Char) : List Char :=
  '\\' :: 'u' :: '{' :: hex c.toNat ++ ['}']

/-- One character as it stands between quotation marks. -/
def quotedChar (c : Char) : List Char :=
  match c with
  | '\x00' => ['\\', '0']
  | '\t' => ['\\', 't']
  | '\r' => ['\\', 'r']
  | '\n' => ['\\', 'n']
  | '"' => ['\\', '"']
  | '\\' => ['\\', '\\']
  | c => if extending.has c || unprintable.has c then byNumber c else [c]

def quoted (s : String) : String :=
  String.ofList ('"' :: s.toList.flatMap quotedChar ++ ['"'])

end MonitorCore.Text

import MonitorCore.Attempt
import MonitorCore.Host.Environment
import MonitorCore.Host.FileTree
import MonitorCore.Text.Alphanumeric
import MonitorCore.Text.Blank

/-!
# Variables from a `.env` file

Each line `KEY = value` sets a variable, unless it is set already. Lines are taken one by one, so a
line sees what the lines before it have set, and the first malformed line ends the reading.

## Values

A value is read character by character. Outside quotes it ends at a blank, after which there may
only be a comment; between single quotes everything stands for itself; between double quotes and
outside, a backslash escapes and `$` begins the name of a variable whose value is put in its
place. A name in braces ends at the closing brace and any other name at the first character that
is no letter or number. The character that ends such a name stands for itself, even if it is a
quote.
-/

namespace MonitorCore.Dotenv

open Text (isAlphanumeric isBlank trim)

/-! ## The value scanner -/

/-- Where in a value the scanner is. -/
inductive Mode where
  /-- Where characters stand for themselves, unless they are special. -/
  | body
  /-- After a backslash. -/
  | escaped
  /-- Between single quotes. -/
  | strong
  /-- In a name after `$`, given in reverse. -/
  | name (rev : List Char)
  /-- In a name in braces, given in reverse. -/
  | braced (rev : List Char)
  /-- After the blank that ends a value. -/
  | ended
  /-- In the comment after a value. -/
  | comment
  deriving DecidableEq, Repr

/-- The state of the scanner: the value so far in reverse, the mode, and whether there is a double
quote open. -/
structure Scan where
  rev : List Char
  mode : Mode
  weak : Bool
  deriving DecidableEq, Repr

/-- The value with the value of the named variable behind it. -/
def Scan.substitute (lookup : String → String) (scan : Scan) (revName : List Char) : Scan :=
  { scan with rev := (lookup (String.ofList revName.reverse)).toList.reverse ++ scan.rev }

def Scan.push (scan : Scan) (c : Char) : Scan := { scan with rev := c :: scan.rev }

/-- The scanner after one more character; none if the character may not stand there. -/
def Scan.step (lookup : String → String) (scan : Scan) (c : Char) : Option Scan :=
  match scan.mode with
  | .ended =>
    if c = ' ' ∨ c = '\t' then some scan
    else if c = '#' then some { scan with mode := .comment }
    else none
  | .comment => some scan
  | .escaped =>
    if c ∈ ['\\', '\'', '"', '$', ' '] then some { scan.push c with mode := .body }
    else if c = 'n' then some { scan.push '\n' with mode := .body }
    else none
  | .strong =>
    if c = '\'' then some { scan with mode := .body } else some (scan.push c)
  | .name rev =>
    if isAlphanumeric c then some { scan with mode := .name (c :: rev) }
    else if c = '{' ∧ rev = [] then some { scan with mode := .braced [] }
    else
      let scan := scan.substitute lookup rev
      if c = '$' then some { scan with mode := .name [] }
      else some { scan.push c with mode := .body }
  | .braced rev =>
    if c = '}' then some { scan.substitute lookup rev with mode := .body }
    else some { scan with mode := .braced (c :: rev) }
  | .body =>
    if c = '$' then some { scan with mode := .name [] }
    else if c = '\\' then some { scan with mode := .escaped }
    else if scan.weak then
      if c = '"' then some { scan with weak := false } else some (scan.push c)
    else if c = '\'' then some { scan with mode := .strong }
    else if c = '"' then some { scan with weak := true }
    else if c = ' ' ∨ c = '\t' then some { scan with mode := .ended }
    else some (scan.push c)

/-- The value at the end of the line; none if a quote or a brace is still open. -/
def Scan.finish (lookup : String → String) (scan : Scan) : Option String :=
  if scan.weak then none
  else
    match scan.mode with
    | .strong => none
    | .braced _ => none
    | .name rev => some (String.ofList (scan.substitute lookup rev).rev.reverse)
    | _ => some (String.ofList scan.rev.reverse)

def scanFrom (lookup : String → String) : Scan → List Char → Option String
  | scan, [] => scan.finish lookup
  | scan, c :: cs =>
    match scan.step lookup c with
    | none => none
    | some scan => scanFrom lookup scan cs

def readText (lookup : String → String) (cs : List Char) : Option String :=
  scanFrom lookup ⟨[], .body, false⟩ cs

/-! ## Lines -/

/-- What a line says. -/
inductive Line where
  /-- Nothing: it is blank or a comment. -/
  | silent
  | assignment (key value : String)
  | malformed
  deriving DecidableEq, Repr

/-- Whether a key may begin with the character. -/
def startsKey (c : Char) : Bool := c.isAlpha || c == '_'

/-- Whether a key may go on with the character. -/
def inKey (c : Char) : Bool := c.isAlphanum || c == '_' || c == '.'

/-- The key at the front of a text, and the text after it and the blanks behind it. -/
def readKey : List Char → Option (String × List Char)
  | [] => none
  | c :: cs =>
    if startsKey c then
      let rest := (c :: cs).dropWhile inKey
      some (String.ofList ((c :: cs).takeWhile inKey), rest.dropWhile isBlank)
    else none

/-- The key of a line and the text after the equals sign. The word `export` may stand before the
key; it is a key itself if an equals sign follows it. -/
def readHead (cs : List Char) : Option (String × List Char) :=
  match readKey cs with
  | none => none
  | some (key, '=' :: rest) => some (key, rest)
  | some (key, rest) =>
    if key = "export" then
      match readKey rest with
      | some (key, '=' :: rest) => some (key, rest)
      | _ => none
    else none

/-- Reads a line; `lookup` gives the values that variables stand for. Blanks around the line do not
count. -/
def readLine (lookup : String → String) (line : String) : Line :=
  match trim line.toList with
  | [] => .silent
  | '#' :: _ => .silent
  | cs =>
    match readHead cs with
    | none => .malformed
    | some (key, rest) =>
      match rest.dropWhile isBlank with
      | [] => .assignment key ""
      | '#' :: _ => .assignment key ""
      | rest =>
        match readText lookup rest with
        | none => .malformed
        | some value => .assignment key value

/-! ## Files -/

/-- The value that a name stands for: that of the variable, else that of an earlier line, else
nothing. -/
def lookup (env : Environment) (earlier : List (String × String)) (name : String) : String :=
  match env.find? name with
  | some value => value
  | none => ((List.find? (fun entry ↦ entry.1 == name) earlier).map (·.2)).getD ""

/-- The variables after the lines; `earlier` are the assignments of the lines before, last one
first. The reading breaks off where a variable would be set to a value that none can have. -/
def applyLines : Environment → List (String × String) → List (Option String) →
    Environment × Attempt Unit
  | env, _, [] => (env, .ended ())
  | env, _, none :: _ => (env, .ended ())
  | env, earlier, some line :: lines =>
    match readLine (lookup env earlier) line with
    | .silent => applyLines env earlier lines
    | .malformed => (env, .ended ())
    | .assignment key value =>
      if (env.get? key).isNone ∧ !Environment.isValue value then (env, .broken)
      else applyLines (env.setIfAbsent key value) ((key, value) :: earlier) lines

/-- The `.env` file of a directory, or else of the nearest directory above that has one. The names
that lead to the directory are given in reverse. -/
def fileFrom? (files : FileTree) : List String → Option Content
  | [] => files.content? [".env"]
  | name :: above =>
    match files.content? ((".env" :: name :: above).reverse) with
    | some content => some content
    | none => fileFrom? files above

/-- The variables after the `.env` file, if there is one. -/
def apply (files : FileTree) (env : Environment) : Environment × Attempt Unit :=
  match fileFrom? files files.workDir.reverse with
  | none => (env, .ended ())
  | some content => applyLines env [] content.lines

end MonitorCore.Dotenv

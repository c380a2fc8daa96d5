import MonitorCore.Decimal.Numeral
import MonitorCore.Settings.Document
import MonitorCore.Text.Numbered

/-!
# TOML documents

A document is read statement by statement: a heading opens a table, and a line `key = value` puts a
value into the table that is open. While it is built, a table remembers how it came about, since a
table that a heading opened cannot be opened again, and one that is written as a value or comes from
a key with points is closed to headings.

Dates and times are texts.
-/

namespace MonitorCore.Toml

open Decimal (Binary64)

/-! ## Blanks, comments and keys -/

def isGap (c : Char) : Bool := c == ' ' || c == '\t'

/-- The text without the blanks at its front. -/
def skipGaps (cs : List Char) : List Char := cs.dropWhile isGap

/-- Whether a comment may have the character. -/
def inComment (c : Char) : Bool := c == '\t' || 0x20 ≤ c.toNat

/-- The text after a comment, if there is one. -/
def skipComment : List Char → List Char
  | '#' :: rest => rest.dropWhile inComment
  | cs => cs

/-- The text after the rest of a line, on which there may only be a comment. -/
def endLine (cs : List Char) : Option (List Char) :=
  match skipComment (skipGaps cs) with
  | [] => some []
  | '\n' :: rest => some rest
  | _ => none

/-- The text after blanks, comments and line ends, for at most `fuel` lines. -/
def skipLines : Nat → List Char → List Char
  | 0, cs => cs
  | fuel + 1, cs =>
    match skipComment (skipGaps cs) with
    | '\n' :: rest => skipLines fuel rest
    | rest => rest

/-- Whether a key without quotes may have the character. -/
def inBareKey (c : Char) : Bool := c.isAlphanum || c == '_' || c == '-'

/-- Line ends of two characters as line ends of one. -/
def foldLineEnds : List Char → List Char
  | '\r' :: '\n' :: rest => '\n' :: foldLineEnds rest
  | c :: rest => c :: foldLineEnds rest
  | [] => []

/-! ## Strings -/

/-- Whether a character may stand in a string by itself. -/
def inString (c : Char) : Bool := c == '\t' || (0x20 ≤ c.toNat && c.toNat != 0x7f)

/-- The character that is escaped at the front of a text, whose backslash has been read. -/
def readEscape : List Char → Option (Char × List Char)
  | 'b' :: rest => some ('\x08', rest)
  | 't' :: rest => some ('\t', rest)
  | 'n' :: rest => some ('\n', rest)
  | 'f' :: rest => some ('\x0c', rest)
  | 'r' :: rest => some ('\r', rest)
  | '"' :: rest => some ('"', rest)
  | '\\' :: rest => some ('\\', rest)
  | 'u' :: rest => Text.readNumbered 4 rest
  | 'U' :: rest => Text.readNumbered 8 rest
  | _ => none

/-- A string in double quotes whose opening quote has been read, of at most `fuel` characters. -/
def readBasic : Nat → List Char → Option (List Char × List Char)
  | 0, _ => none
  | _, [] => none
  | _, '"' :: rest => some ([], rest)
  | fuel + 1, '\\' :: rest =>
    (readEscape rest).bind fun (c, rest) ↦
      (readBasic fuel rest).map fun (cs, rest) ↦ (c :: cs, rest)
  | fuel + 1, c :: rest =>
    if inString c then (readBasic fuel rest).map fun (cs, rest) ↦ (c :: cs, rest) else none

/-- A string in single quotes whose opening quote has been read. -/
def readLiteral : List Char → Option (List Char × List Char)
  | [] => none
  | '\'' :: rest => some ([], rest)
  | c :: rest =>
    if inString c then (readLiteral rest).map fun (cs, rest) ↦ (c :: cs, rest) else none

/-- Whether the text after a backslash breaks the line: blanks up to a line end. -/
def breaksLine (cs : List Char) : Bool := (skipGaps cs).head? == some '\n'

/-- The quotes that belong to a string in three quotes although they stand behind its closing ones:
two at most. -/
def extraQuotes (quote : Char) (cs : List Char) : List Char := (cs.take 2).takeWhile (· == quote)

/-- A string in three quotes whose opening quotes have been read, of at most `fuel` characters. With
`escapes`, a backslash escapes, and at the end of a line it takes away all blanks after it. -/
def readLong (quote : Char) (escapes : Bool) : Nat → List Char → Option (List Char × List Char)
  | 0, _ => none
  | _, [] => none
  | fuel + 1, c :: rest =>
    if c = quote ∧ rest.take 2 = [quote, quote] then
      let extra := extraQuotes quote (rest.drop 2)
      some (extra, rest.drop (2 + extra.length))
    else if c = '\\' ∧ escapes then
      if breaksLine rest then
        readLong quote escapes fuel (rest.dropWhile fun c ↦ isGap c || c == '\n')
      else
        (readEscape rest).bind fun (c, rest) ↦
          (readLong quote escapes fuel rest).map fun (cs, rest) ↦ (c :: cs, rest)
    else if inString c ∨ c = '\n' then
      (readLong quote escapes fuel rest).map fun (cs, rest) ↦ (c :: cs, rest)
    else none

/-- The text without the line end at its front. -/
def dropLineEnd : List Char → List Char
  | '\n' :: rest => rest
  | cs => cs

def readString : List Char → Option (List Char × List Char)
  | '"' :: '"' :: '"' :: rest => readLong '"' true (rest.length + 1) (dropLineEnd rest)
  | '\'' :: '\'' :: '\'' :: rest => readLong '\'' false (rest.length + 1) (dropLineEnd rest)
  | '"' :: rest => readBasic (rest.length + 1) rest
  | '\'' :: rest => readLiteral rest
  | _ => none

/-! ## Keys -/

/-- The single key at the front of a text. -/
def readKey : List Char → Option (String × List Char)
  | '"' :: rest =>
    (readBasic (rest.length + 1) rest).map fun (cs, rest) ↦ (String.ofList cs, rest)
  | '\'' :: rest => (readLiteral rest).map fun (cs, rest) ↦ (String.ofList cs, rest)
  | cs =>
    match cs.takeWhile inBareKey with
    | [] => none
    | key => some (String.ofList key, cs.dropWhile inBareKey)

/-- The keys with points between them at the front of a text, at most `fuel` of them, and the text
after the blanks behind them. -/
def readKeys : Nat → List Char → Option (List String × List Char)
  | 0, _ => none
  | fuel + 1, cs =>
    (readKey (skipGaps cs)).bind fun (key, rest) ↦
      match skipGaps rest with
      | '.' :: rest => (readKeys fuel rest).map fun (keys, rest) ↦ (key :: keys, rest)
      | rest => some ([key], rest)

/-! ## Numbers and dates -/

/-- Whether a value without quotes or brackets may have the character. -/
def inWord (c : Char) : Bool := inBareKey c || c == '+' || c == '.' || c == ':'

/-- Digits without the underscores between them, of which none may stand at an end or beside
another. -/
def plainDigits? (isDigit : Char → Bool) : List Char → Option (List Char)
  | [] => none
  | [c] => if isDigit c then some [c] else none
  | c :: '_' :: d :: rest =>
    if isDigit c && isDigit d then (plainDigits? isDigit (d :: rest)).map (c :: ·) else none
  | c :: rest => if isDigit c then (plainDigits? isDigit rest).map (c :: ·) else none

/-- Decimal digits without underscores, that do not begin with a zero before other digits. -/
def wholeDigits? (cs : List Char) : Option (List Char) :=
  match plainDigits? Char.isDigit cs with
  | some ('0' :: _ :: _) => none
  | digits => digits

/-- The integer with digits in the given base, underscores between them left out. -/
def ofBase? (base : Nat) (cs : List Char) : Option Int :=
  let isDigit (c : Char) : Bool := (Decimal.digitValue? c).any (· < base)
  ((plainDigits? isDigit cs).bind (Decimal.ofBase? base)).bind (Decimal.signed? false)

/-- A word without the minus sign at its front, and whether there was one. -/
def splitMinus : List Char → Bool × List Char
  | '-' :: rest => (true, rest)
  | cs => (false, cs)

/-- The integer that a word names; only decimal digits may have a sign. -/
def readInteger? : List Char → Option Int
  | '0' :: 'x' :: digits => ofBase? 16 digits
  | '0' :: 'o' :: digits => ofBase? 8 digits
  | '0' :: 'b' :: digits => ofBase? 2 digits
  | cs =>
    let (negative, digits) := splitMinus cs
    (wholeDigits? digits).bind fun digits ↦
      Decimal.signed? negative (Decimal.ofDigitChars digits)

/-- The finite double that a word names: a whole number, then a point with digits, an exponent, or
both. -/
def readFloat? (cs : List Char) : Option Binary64 :=
  let (negative, body) := splitMinus cs
  let isMark (c : Char) : Bool := c == '.' || c == 'e' || c == 'E'
  let whole := body.takeWhile fun c ↦ !isMark c
  let (fraction, rest) : Option (List Char) × List Char :=
    match body.drop whole.length with
    | '.' :: rest =>
      let digits := rest.takeWhile fun c ↦ !isMark c
      ((plainDigits? Char.isDigit digits).map ('.' :: ·), rest.drop digits.length)
    | rest => (some [], rest)
  let power : Option (List Char) :=
    match rest with
    | [] => some []
    | c :: rest =>
      let (negative, digits) := Decimal.splitSign rest
      if c = '.' then none
      else
        (plainDigits? Char.isDigit digits).map fun digits ↦
          'e' :: (if negative then '-' else '+') :: digits
  match body.drop whole.length, wholeDigits? whole, fraction, power with
  | _ :: _, some whole, some fraction, some power =>
    match Decimal.readUnsigned? negative (whole ++ fraction ++ power) with
    | some (.finite s m e) => some (.finite s m e)
    | _ => none
  | _, _, _, _ => none

/-- The number that a word names which has no plus sign. -/
def readNumber? (cs : List Char) : Option Scalar :=
  match String.ofList cs with
  | "inf" => some (.float (.infinite false))
  | "-inf" => some (.float (.infinite true))
  | "nan" => some (.float .nan)
  | "-nan" => some (.float .nan)
  | _ =>
    match readInteger? cs with
    | some i => some (.integer i)
    | none => (readFloat? cs).map .float

/-- The value of a text of exactly `count` digits that is no greater than `greatest`. -/
def digitsUpTo? (count greatest : Nat) (cs : List Char) : Option Nat :=
  if cs.length = count ∧ cs.all Char.isDigit then
    let n := Decimal.ofDigitChars cs
    if n ≤ greatest then some n else none
  else none

/-- Whether a word is a date such as `1979-05-27`. -/
def isDate (cs : List Char) : Bool :=
  cs.length == 10 && cs[4]? == some '-' && cs[7]? == some '-'
    && (digitsUpTo? 4 9999 (cs.take 4)).isSome
    && ((digitsUpTo? 2 12 ((cs.drop 5).take 2)).any (0 < ·))
    && ((digitsUpTo? 2 31 (cs.drop 8)).any (0 < ·))

/-- The fraction of a second without the zeros at its end, after the text of a time up to seconds.
-/
def readFractionOfSecond : List Char → Option (List Char × List Char)
  | '.' :: rest =>
    match rest.takeWhile Char.isDigit with
    | [] => none
    | digits =>
      let shown := ((digits.take 9).reverse.dropWhile (· == '0')).reverse
      some (if shown.isEmpty then [] else '.' :: shown, rest.drop digits.length)
  | cs => some ([], cs)

/-- The time such as `07:32:00.5` at the front of a text. -/
def readTime (cs : List Char) : Option (List Char × List Char) :=
  let clock := cs.take 8
  if clock.length = 8 ∧ clock[2]? = some ':' ∧ clock[5]? = some ':'
      ∧ (digitsUpTo? 2 24 (clock.take 2)).isSome
      ∧ (digitsUpTo? 2 59 ((clock.drop 3).take 2)).isSome
      ∧ (digitsUpTo? 2 59 (clock.drop 6)).isSome then
    (readFractionOfSecond (cs.drop 8)).map fun (fraction, rest) ↦ (clock ++ fraction, rest)
  else none

/-- The distance from universal time that ends a word, any two digits for the hours and any two for
the minutes. It is shown with the sign of the hours, which have a plus sign if they are zero. -/
def readZone : List Char → Option (List Char)
  | [] => some []
  | ['Z'] => some ['Z']
  | ['z'] => some ['Z']
  | c :: rest =>
    if (c = '+' ∨ c = '-') ∧ rest.length = 5 ∧ rest[2]? = some ':'
        ∧ (digitsUpTo? 2 99 (rest.take 2)).isSome ∧ (digitsUpTo? 2 99 (rest.drop 3)).isSome then
      some ((if rest.take 2 = ['0', '0'] then '+' else c) :: rest)
    else none

/-- A date, a time or both, in the form in which they are shown. -/
def readDateTime? (cs : List Char) : Option (List Char) :=
  let date := cs.take 10
  if isDate date then
    match cs.drop 10 with
    | [] => some date
    | c :: rest =>
      if c = 'T' ∨ c = 't' ∨ c = ' ' then
        (readTime rest).bind fun (time, rest) ↦
          (readZone rest).map fun zone ↦ date ++ 'T' :: time ++ zone
      else none
  else
    match readTime cs with
    | some (time, []) => some time
    | _ => none

/-- The value that a word without a plus sign in front names. -/
def readPlainWord (cs : List Char) : Option Scalar :=
  match String.ofList cs with
  | "true" => some (.boolean true)
  | "false" => some (.boolean false)
  | _ =>
    match readNumber? cs with
    | some number => some number
    | none => (readDateTime? cs).map fun text ↦ .text (String.ofList text)

/-- The value that a word names. A plus sign in front says nothing but that a number follows, which
may have a minus sign. -/
def readWord : List Char → Option Scalar
  | '+' :: rest => readNumber? rest
  | cs => readPlainWord cs

/-- The word at the front of a text. A date and a time may have a blank between them. -/
def takeWord (cs : List Char) : List Char × List Char :=
  let word := cs.takeWhile inWord
  let rest := cs.dropWhile inWord
  match rest with
  | ' ' :: c :: _ =>
    if isDate word && c.isDigit then
      (word ++ ' ' :: (rest.drop 1).takeWhile inWord, (rest.drop 1).dropWhile inWord)
    else (word, rest)
  | _ => (word, rest)

/-! ## Tables that are being built -/

/-- How a table came about. -/
inductive Maker where
  /-- A heading opened it. -/
  | heading
  /-- It lies on the way of a heading. -/
  | way
  /-- It lies on the way of a key with points. -/
  | dotted
  deriving DecidableEq, Repr

/-- A part of a document that is being built. -/
inductive Part where
  | value (document : Document)
  | table (maker : Maker) (members : List (String × Part))
  /-- A list of tables, the last one first. -/
  | tables (items : List (List (String × Part)))

/-- The members of a table that is being built. -/
abbrev Parts := List (String × Part)

namespace Part

mutual

def finish : Part → Document
  | value document => document
  | table _ members => .table (finishMembers members)
  | tables items => .list (finishItems items).reverse

def finishMembers : List (String × Part) → List (String × Document)
  | [] => []
  | (key, part) :: parts => (key, finish part) :: finishMembers parts

def finishItems : List (List (String × Part)) → List Document
  | [] => []
  | members :: items => .table (finishMembers members) :: finishItems items

end

end Part

def part? (key : String) (parts : Parts) : Option Part :=
  (List.find? (fun entry ↦ entry.1 == key) parts).map (·.2)

/-- Changes the table that keys of a heading lead to. Tables on the way are made, and in a list of
tables the last one is meant; a table that a key with points made is closed to headings. -/
def atHeading (change : Parts → Option Parts) : List String → Parts → Option Parts
  | [], parts => change parts
  | key :: keys, parts =>
    match part? key parts with
    | none =>
      (atHeading change keys []).map fun inner ↦ Document.enter key (.table .way inner) parts
    | some (.table .dotted _) => none
    | some (.table maker inner) =>
      (atHeading change keys inner).map fun inner ↦
        Document.enter key (.table maker inner) parts
    | some (.tables (inner :: items)) =>
      (atHeading change keys inner).map fun inner ↦
        Document.enter key (.tables (inner :: items)) parts
    | some _ => none

/-- Puts a value under keys with points between them. A key may not be given twice. -/
def enterDotted (value : Document) : List String → Parts → Option Parts
  | [], _ => none
  | [key], parts =>
    match part? key parts with
    | none => some (Document.enter key (.value value) parts)
    | some _ => none
  | key :: keys, parts =>
    match part? key parts with
    | none =>
      (enterDotted value keys []).map fun inner ↦ Document.enter key (.table .dotted inner) parts
    | some (.table .dotted inner) =>
      (enterDotted value keys inner).map fun inner ↦
        Document.enter key (.table .dotted inner) parts
    | some _ => none

def openTable (key : String) (parts : Parts) : Option Parts :=
  match part? key parts with
  | none => some (Document.enter key (.table .heading []) parts)
  | some (.table .way inner) => some (Document.enter key (.table .heading inner) parts)
  | some _ => none

/-- Opens the next table in the list of a heading. -/
def openItem (key : String) (parts : Parts) : Option Parts :=
  match part? key parts with
  | none => some (Document.enter key (.tables [[]]) parts)
  | some (.tables items) => some (Document.enter key (.tables ([] :: items)) parts)
  | some _ => none

/-! ## Values -/

mutual

/-- The value at the front of a text; `fuel` bounds the values and items within it. -/
def readValue : Nat → List Char → Option (Document × List Char)
  | 0, _ => none
  | fuel + 1, cs =>
    match cs with
    | [] => none
    | c :: rest =>
      if c = '"' ∨ c = '\'' then
        (readString cs).map fun (text, rest) ↦ (.text (String.ofList text), rest)
      else if c = '[' then
        (readItems fuel rest).map fun (items, rest) ↦ (.list items, rest)
      else if c = '{' then
        match skipGaps rest with
        | '}' :: rest => some (.table [], rest)
        | rest => (readMembers fuel [] rest).map fun (parts, rest) ↦
          (.table (Part.finishMembers parts), rest)
      else
        let (word, rest) := takeWord cs
        (readWord word).map fun scalar ↦ (.scalar scalar, rest)

/-- The items of a list whose opening bracket or last comma has been read. -/
def readItems : Nat → List Char → Option (List Document × List Char)
  | 0, _ => none
  | fuel + 1, cs =>
    match skipLines cs.length cs with
    | ']' :: rest => some ([], rest)
    | cs =>
      match readValue fuel cs with
      | none => none
      | some (item, rest) =>
        match skipLines rest.length rest with
        | ',' :: rest => (readItems fuel rest).map fun (items, rest) ↦ (item :: items, rest)
        | ']' :: rest => some ([item], rest)
        | _ => none

/-- The members of an inline table that has at least one more of them. -/
def readMembers : Nat → Parts → List Char → Option (Parts × List Char)
  | 0, _, _ => none
  | fuel + 1, parts, cs =>
    match readKeys (cs.length + 1) cs with
    | some (keys, '=' :: rest) =>
      match readValue fuel (skipGaps rest) with
      | none => none
      | some (value, rest) =>
        match enterDotted value keys parts with
        | none => none
        | some parts =>
          match skipGaps rest with
          | ',' :: rest => readMembers fuel parts rest
          | '}' :: rest => some (parts, rest)
          | _ => none
    | _ => none

end

/-! ## Statements -/

/-- The members of the root so far, and the keys of the heading that is open. -/
structure State where
  parts : Parts
  heading : List String

/-- Reads a heading whose brackets have been read. -/
def State.openHeading (state : State) (keys : List String)
    (change : String → Parts → Option Parts) : Option State :=
  match keys.getLast? with
  | none => none
  | some key =>
    (atHeading (change key) keys.dropLast state.parts).map fun parts ↦ ⟨parts, keys⟩

/-- Reads a statement, and the text after the line it is on. -/
def readStatement (state : State) (cs : List Char) : Option (State × List Char) :=
  match cs with
  | '[' :: '[' :: rest =>
    match readKeys (rest.length + 1) rest with
    | some (keys, ']' :: ']' :: rest) =>
      (endLine rest).bind fun rest ↦
        (state.openHeading keys openItem).map fun state ↦ (state, rest)
    | _ => none
  | '[' :: rest =>
    match readKeys (rest.length + 1) rest with
    | some (keys, ']' :: rest) =>
      (endLine rest).bind fun rest ↦
        (state.openHeading keys openTable).map fun state ↦ (state, rest)
    | _ => none
  | cs =>
    match readKeys (cs.length + 1) cs with
    | some (keys, '=' :: rest) =>
      (readValue (rest.length + 1) (skipGaps rest)).bind fun (value, rest) ↦
        (endLine rest).bind fun rest ↦
          (atHeading (enterDotted value keys) state.heading state.parts).map fun parts ↦
            ({ state with parts := parts }, rest)
    | _ => none

/-- Reads statements, at most `fuel` of them. -/
def readStatements : Nat → State → List Char → Option State
  | 0, _, _ => none
  | fuel + 1, state, cs =>
    match skipLines cs.length cs with
    | [] => some state
    | cs => (readStatement state cs).bind fun (state, rest) ↦ readStatements fuel state rest

/-- The text without the mark of the byte order at its front. -/
def dropOrderMark : List Char → List Char
  | '\ufeff' :: rest => rest
  | cs => cs

def read (s : String) : Option Document :=
  let cs := foldLineEnds (dropOrderMark s.toList)
  (readStatements (cs.length + 1) ⟨[], []⟩ cs).map fun state ↦
    .table (Part.finishMembers state.parts)

end MonitorCore.Toml

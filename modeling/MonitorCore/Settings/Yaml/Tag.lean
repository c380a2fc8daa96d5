import MonitorCore.Decimal.Numeral
import MonitorCore.Settings.Yaml.Cursor
import MonitorCore.Text.Numbered

/-!
# Tags, anchors and directives

A tag tells the type of a value. The types that every text knows have tags with the handle `!!`;
what other tags mean is left to applications, and they mean nothing here. The same goes for
directives, so what handles they declare makes no difference, but they must be well formed.
-/

namespace MonitorCore.Yaml

/-- The tag of a value. -/
inductive Tag where
  /-- A tag with the handle `!!`, and the name behind it. -/
  | core (name : String)
  | other
  deriving DecidableEq, Repr

/-! ## Tags -/

/-- The characters of a tag behind its handle. -/
def inTag (c : Char) : Bool :=
  inName c || c ∈ [';', '/', '?', ':', '@', '&', '=', '+', '$', ',', '.', '!', '~', '*', '\'', '(',
    ')', '[', ']', '%']

/-- The number that two hexadecimal digits after a percent sign give. -/
def readOctet : List Char → Option (Nat × List Char)
  | '%' :: a :: b :: rest => (Decimal.ofBase? 16 [a, b]).map fun n ↦ (n, rest)
  | _ => none

/-- How many bytes the encoding of a character has that begins with the given one. -/
def encodedLength? (octet : Nat) : Option Nat :=
  if octet < 0x80 then some 1
  else if 0xC0 ≤ octet ∧ octet < 0xE0 then some 2
  else if 0xE0 ≤ octet ∧ octet < 0xF0 then some 3
  else if 0xF0 ≤ octet ∧ octet < 0xF8 then some 4
  else none

/-- Appends so many bytes by number to the digits of a number. -/
def readOctets : Nat → Nat → List Char → Option (Nat × List Char)
  | 0, n, cs => some (n, cs)
  | count + 1, n, cs =>
    match readOctet cs with
    | some (octet, rest) =>
      if 0x80 ≤ octet ∧ octet < 0xC0 then readOctets count (n * 0x100 + octet) rest else none
    | none => none

/-- The character that is given by the numbers of its bytes. Their digits together count as the
number of the character. -/
def readEncoded (cs : List Char) : Option (Char × List Char) :=
  match readOctet cs with
  | none => none
  | some (octet, rest) =>
    match encodedLength? octet with
    | none => none
    | some count =>
      (readOctets (count - 1) octet rest).bind fun (n, rest) ↦
        (Text.charOfNat? n).map fun c ↦ (c, rest)

/-- The characters of a tag at the front of a text, at most `fuel` of them. -/
def readTagText : Nat → List Char → Option (List Char × List Char)
  | 0, cs => some ([], cs)
  | _, [] => some ([], [])
  | fuel + 1, c :: rest =>
    if !inTag c then some ([], c :: rest)
    else if c = '%' then
      (readEncoded (c :: rest)).bind fun (e, rest) ↦
        (readTagText fuel rest).map fun (cs, rest) ↦ (e :: cs, rest)
    else (readTagText fuel rest).map fun (cs, rest) ↦ (c :: cs, rest)

/-- The characters of a tag at the front of a text, one at least. -/
def readSuffix (cs : List Char) : Option (List Char × List Char) :=
  match readTagText cs.length cs with
  | some ([], _) => none
  | found => found

/-- The handle at the front of a text: a name between exclamation marks, or the first mark alone
with what there is of a name. -/
def readHandle : List Char → Option (List Char × List Char)
  | '!' :: cs =>
    match cs.dropWhile inName with
    | '!' :: rest => some ('!' :: cs.takeWhile inName ++ ['!'], rest)
    | rest => some ('!' :: cs.takeWhile inName, rest)
  | _ => none

/-- Whether the exclamation mark at the end of a handle is there. -/
def closesHandle (handle : List Char) : Bool :=
  2 ≤ handle.length && handle.getLast? == some '!'

/-- The tag at the front of a text. A blank or line end must follow it. -/
def readTag (cs : List Char) : Option (Tag × List Char) :=
  let found : Option (Tag × List Char) :=
    match cs with
    | '!' :: '<' :: rest =>
      match readSuffix rest with
      | some (_, '>' :: rest) => some (.other, rest)
      | _ => none
    | cs =>
      match readHandle cs with
      | none => none
      | some (handle, rest) =>
        if closesHandle handle then
          (readSuffix rest).map fun (name, rest) ↦
            (if handle = ['!', '!'] then .core (String.ofList name) else .other, rest)
        else (readTagText rest.length rest).map fun (_, rest) ↦ (.other, rest)
  found.filter fun (_, rest) ↦ endsWord rest

/-! ## Anchors -/

/-- The characters that may follow a name at once. -/
def endsAnchor (cs : List Char) : Bool :=
  endsWord cs || cs.head?.any (· ∈ ['?', ':', ',', ']', '}', '%', '@', '\x60'])

/-- The name of an anchor at the front of a text. -/
def readAnchor (cs : List Char) : Option (String × List Char) :=
  let rest := cs.dropWhile inName
  match cs.takeWhile inName with
  | [] => none
  | name => if endsAnchor rest then some (String.ofList name, rest) else none

/-! ## Directives -/

/-- The most digits of a number in a version. -/
def versionDigits : Nat := 9

/-- The text behind a number of a version. -/
def skipVersionNumber (cs : List Char) : Option (List Char) :=
  let digits := cs.takeWhile Char.isDigit
  if digits.isEmpty || versionDigits < digits.length then none
  else some (cs.dropWhile Char.isDigit)

/-- The text behind a version: two numbers with a point between them. -/
def skipVersion (cs : List Char) : Option (List Char) :=
  match skipVersionNumber (cs.dropWhile isGap) with
  | some ('.' :: rest) => skipVersionNumber rest
  | _ => none

/-- The text behind the declaration of a handle: the handle and what it stands for. -/
def skipDeclaration (cs : List Char) : Option (List Char) :=
  match readHandle (cs.dropWhile isGap) with
  | none => none
  | some (handle, rest) =>
    if handle = ['!'] ∨ closesHandle handle then
      match readSuffix (rest.dropWhile isGap) with
      | some (_, rest) => if endsWord rest then some rest else none
      | none => none
    else none

/-- The text behind a directive, whose percent sign has been read. Directives without a meaning go
on to the end of the line. -/
def skipDirective (cs : List Char) : Option (List Char) :=
  let rest := cs.dropWhile inName
  match String.ofList (cs.takeWhile inName) with
  | "" => none
  | "YAML" => if endsWord rest then skipVersion rest else none
  | "TAG" => if endsWord rest then skipDeclaration rest else none
  | _ => if endsWord rest then some (rest.dropWhile (!isBreak ·)) else none

end MonitorCore.Yaml

import MonitorCore.Settings.Yaml.Block
import MonitorCore.Settings.Yaml.Plain
import MonitorCore.Settings.Yaml.Quoted
import MonitorCore.Settings.Yaml.Token

/-!
# From text to tokens

Two things in a YAML text can only be told with memory.

**Indentation.** Lists and mappings outside brackets are opened by the column of their first item
or key, and closed by the first token that stands farther to the left. The columns of the open ones
are a stack.

**Keys.** A text is a key only because a colon follows it. Whatever may be a key is remembered as
*pending*, with the number of the token that it begins with, and when the colon comes the token
for the key is put in front of that one. A key must stand on one line and be no longer than
`longestKey`, so a pending one is given up when it can no longer be a key. There is at most one
pending key for every level of brackets.

A pending key that stands within brackets at the column of the mapping around them must become a
key.
-/

namespace MonitorCore.Yaml

/-- What may turn out to be a key. -/
structure PendingKey where
  index : Nat
  line : Nat
  column : Nat
  /-- How many tokens are in front of it. -/
  number : Nat
  /-- Whether it must become a key. -/
  required : Bool
  deriving DecidableEq, Repr

/-- The state of the reading. -/
structure Layout where
  cursor : Cursor
  tokens : Array Token
  /-- The columns of the collections that are open by indentation, innermost first. -/
  columns : List Nat
  /-- Whether a key may begin here. -/
  keyAllowed : Bool
  pending : Option PendingKey
  /-- The pending keys at the levels of brackets around, innermost first. -/
  outer : List (Option PendingKey)
  /-- Where the last quoted text ended. -/
  quoteEnd : Nat

namespace Layout

/-- The most characters that a key may have, up to its colon. -/
def longestKey : Nat := 1024

def deepestFlow : Nat := 255

def start (s : String) : Layout := ⟨.start s, #[], [], true, none, [], 0⟩

/-- Whether the cursor is within brackets. -/
def inFlow (layout : Layout) : Bool := !layout.outer.isEmpty

/-- The column that the text of the innermost collection must reach. -/
def floor (layout : Layout) : Nat :=
  match layout.columns with
  | [] => 0
  | column :: _ => column + 1

def push (token : Token) (layout : Layout) : Layout :=
  { layout with tokens := layout.tokens.push token }

/-- Appends a token and moves behind its character. -/
def pushNext (token : Token) (layout : Layout) : Layout :=
  { layout.push token with cursor := layout.cursor.next }

/-! ## Indentation -/

/-- Closes the collections whose column is greater than allowed. Within brackets none is closed. -/
def closeWhile (closes : Nat → Bool) (layout : Layout) : Layout :=
  if layout.inFlow then layout
  else
    { layout with
      columns := layout.columns.dropWhile closes
      tokens :=
        layout.tokens ++ (layout.columns.takeWhile closes).map fun _ ↦ Token.blockEnd }

/-- Opens a collection at a column, unless there is one that far to the right already; its token
comes in front of the token with the given number. -/
def openAt (column number : Nat) (token : Token) (layout : Layout) : Layout :=
  if !layout.inFlow && layout.columns.head?.all (· < column) then
    { layout with
      columns := column :: layout.columns
      tokens := layout.tokens.insertIdxIfInBounds number token }
  else layout

/-- Opens a collection at the column of the cursor. -/
def openHere (token : Token) (layout : Layout) : Layout :=
  layout.openAt layout.cursor.column layout.tokens.size token

/-! ## Pending keys -/

/-- Gives up the pending key; none if it must become a key. -/
def dropKey (layout : Layout) : Option Layout :=
  if layout.pending.any (·.required) then none else some { layout with pending := none }

/-- Remembers what begins here as a pending key, if a key may begin here. -/
def saveKey (layout : Layout) : Option Layout :=
  if layout.keyAllowed then
    layout.dropKey.map fun layout ↦
      let cur := layout.cursor
      { layout with
        pending := some
          { index := cur.index
            line := cur.line
            column := cur.column
            number := layout.tokens.size
            required := layout.inFlow && layout.columns.head? == some cur.column } }
  else some layout

/-- The pending key unless it can no longer be a key at the cursor; no result if it must become
one. -/
def keepKey (cur : Cursor) : Option PendingKey → Option (Option PendingKey)
  | none => some none
  | some key =>
    if key.line < cur.line ∨ key.index + longestKey < cur.index then
      if key.required then none else some none
    else some (some key)

/-- Gives up all pending keys that can no longer be keys. -/
def dropStale (layout : Layout) : Option Layout := do
  let pending ← keepKey layout.cursor layout.pending
  let outer ← layout.outer.mapM (keepKey layout.cursor)
  return { layout with pending := pending, outer := outer }

/-! ## Between tokens -/

/-- Moves over blanks, comments and line ends, at most `fuel` of them. Outside brackets a key may
begin on every new line, and a tab is not a blank where a key may begin. -/
def skipSpace : Nat → Layout → Layout
  | 0, layout => layout
  | fuel + 1, layout =>
    match layout.cursor.rest with
    | [] => layout
    | c :: _ =>
      if c = ' ' ∨ (c = '\t' ∧ (layout.inFlow ∨ !layout.keyAllowed)) then
        skipSpace fuel { layout with cursor := layout.cursor.next }
      else if isBreak c then
        skipSpace fuel
          { layout with
            cursor := layout.cursor.skipBreak
            keyAllowed := layout.keyAllowed || !layout.inFlow }
      else if c = '#' then
        skipSpace fuel { layout with cursor := layout.cursor.skipWhile (!isBreak ·) }
      else layout

/-! ## Tokens -/

/-- Closes all collections and pending keys, as the edge of a document does. -/
def closeAll (layout : Layout) : Option Layout :=
  (layout.closeWhile fun _ ↦ true).dropKey.map fun layout ↦ { layout with keyAllowed := false }

def readDirective (layout : Layout) : Option Layout := do
  let layout ← layout.closeAll
  let rest ← skipDirective (layout.cursor.rest.drop 1)
  let cur ← (layout.cursor.skipTo rest).skipLine?
  return { layout.push .directive with cursor := cur }

def readEdge (token : Token) (layout : Layout) : Option Layout := do
  let layout ← layout.closeAll
  return { layout.push token with cursor := layout.cursor.skip 3 }

/-- An opening bracket; with its collection it may be a key. -/
def openFlow (token : Token) (layout : Layout) : Option Layout := do
  let layout ← layout.saveKey
  if layout.outer.length < deepestFlow then
    some
      { layout.pushNext token with
        keyAllowed := true
        pending := none
        outer := layout.pending :: layout.outer }
  else none

def closeFlow (token : Token) (layout : Layout) : Option Layout := do
  let layout ← layout.dropKey
  let layout := { layout.pushNext token with keyAllowed := false }
  match layout.outer with
  | [] => some layout
  | pending :: outer => some { layout with pending := pending, outer := outer }

def readFlowEntry (layout : Layout) : Option Layout := do
  let layout ← layout.dropKey
  return { layout.pushNext .flowEntry with keyAllowed := true }

/-- The mark of an item of a list by indentation. -/
def readBlockEntry (layout : Layout) : Option Layout :=
  if layout.inFlow || !layout.keyAllowed then none
  else
    (layout.openHere .blockSequence).dropKey.map fun layout ↦
      { layout.pushNext .blockEntry with keyAllowed := true }

def readKey (layout : Layout) : Option Layout :=
  if !layout.inFlow && !layout.keyAllowed then none
  else
    (layout.openHere .blockMapping).dropKey.map fun layout ↦
      { layout.pushNext .key with keyAllowed := !layout.inFlow }

/-- The colon in front of a value. It makes a key of the pending one, or else it belongs to a key of
any kind, which may be missing. -/
def readValue (layout : Layout) : Option Layout :=
  match layout.pending with
  | some key =>
    let marked :=
      { layout with
        tokens := layout.tokens.insertIdxIfInBounds key.number .key
        keyAllowed := false
        pending := none }
    some ((marked.openAt key.column key.number .blockMapping).pushNext .value)
  | none =>
    if !layout.inFlow && !layout.keyAllowed then none
    else
      some
        { (layout.openHere .blockMapping).pushNext .value with keyAllowed := !layout.inFlow }

/-- A token that may begin a key, and the cursor behind it. -/
def readLeaf (keyAllowed : Bool) (read : Cursor → Option (Token × Cursor)) (layout : Layout) :
    Option Layout := do
  let layout ← layout.saveKey
  let (token, cur) ← read layout.cursor
  return { layout.push token with cursor := cur, keyAllowed := keyAllowed }

def readQuotedScalar (quote : Quote) (layout : Layout) : Option Layout := do
  let layout ← layout.readLeaf false fun cur ↦
    (readQuoted quote cur).map fun (cs, cur) ↦ (.scalar false (String.ofList cs), cur)
  return { layout with quoteEnd := layout.cursor.index }

def readBlockScalar (folded : Bool) (layout : Layout) : Option Layout :=
  layout.readLeaf true fun cur ↦
    (readBlock folded layout.floor cur).map fun (cs, cur) ↦
      (.scalar false (String.ofList cs), cur)

/-- A plain scalar; a key may begin behind it if it is on a line before. -/
def readPlainScalar (layout : Layout) : Option Layout := do
  let layout ← layout.saveKey
  let scalar ← readPlain layout.inFlow layout.floor layout.cursor
  return { layout.push (.scalar true (String.ofList scalar.text)) with
    cursor := scalar.cursor
    keyAllowed := scalar.lineEnded }

/-- What a sign and a text behind it stand for. -/
def readSigned {α : Type} (token : α → Token) (read : List Char → Option (α × List Char))
    (layout : Layout) : Option Layout :=
  layout.readLeaf false fun cur ↦
    (read (cur.rest.drop 1)).map fun (x, rest) ↦ (token x, cur.skipTo rest)

/-- Whether the colon in front of a text is that of a value. Within brackets it may touch the value
if a bracket or comma follows, or if it touches the quotes of its key. -/
def startsValue (layout : Layout) (rest : List Char) : Bool :=
  endsKey layout.inFlow rest || (layout.inFlow && layout.cursor.index == layout.quoteEnd)

/-- The token that begins with the given character. -/
def readToken (layout : Layout) (c : Char) (rest : List Char) : Option Layout :=
  if layout.cursor.column = 0 ∧ c = '%' then layout.readDirective
  else if layout.cursor.isMark '-' then layout.readEdge .documentStart
  else if layout.cursor.isMark '.' then layout.readEdge .documentEnd
  else
    match c with
    | '[' => layout.openFlow .flowSequence
    | '{' => layout.openFlow .flowMapping
    | ']' => layout.closeFlow .flowSequenceEnd
    | '}' => layout.closeFlow .flowMappingEnd
    | ',' => layout.readFlowEntry
    | '-' => if endsWord rest then layout.readBlockEntry else layout.readPlainScalar
    | '?' => if endsWord rest then layout.readKey else layout.readPlainScalar
    | ':' => if layout.startsValue rest then layout.readValue else layout.readPlainScalar
    | '*' => layout.readSigned .alias readAnchor
    | '&' => layout.readSigned .anchor readAnchor
    | '!' => layout.readLeaf false fun cur ↦
      (readTag cur.rest).map fun (tag, rest) ↦ (.tag tag, cur.skipTo rest)
    | '\'' => layout.readQuotedScalar .single
    | '"' => layout.readQuotedScalar .double
    | '|' => if layout.inFlow then layout.readPlainScalar else layout.readBlockScalar false
    | '>' => if layout.inFlow then layout.readPlainScalar else layout.readBlockScalar true
    | '%' => none
    | '@' => none
    | '\x60' => none
    | _ => layout.readPlainScalar

/-- Reads tokens to the end of the text, at most `fuel` of them. -/
def readTokens : Nat → Layout → Option (Array Token)
  | 0, _ => none
  | fuel + 1, layout =>
    match (layout.skipSpace (layout.cursor.rest.length + 1)).dropStale with
    | none => none
    | some layout =>
      let layout := layout.closeWhile (layout.cursor.column < ·)
      match layout.cursor.rest with
      | [] => layout.closeAll.map (·.tokens)
      | c :: rest =>
        match layout.readToken c rest with
        | none => none
        | some layout => readTokens fuel layout

end Layout

def tokensOf (s : String) : Option (List Token) :=
  (Layout.readTokens (s.length + 1) (.start s)).map Array.toList

end MonitorCore.Yaml

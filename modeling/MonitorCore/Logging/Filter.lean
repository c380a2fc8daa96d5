import MonitorCore.Host.Platform
import MonitorCore.Logging.Event
import MonitorCore.Text.Alphanumeric
import MonitorCore.Text.Blank

/-!
# Filters

A filter is a list of directives: up to which level which events are let through. A directive may
name a target, which the event's target must begin with, and a field, which the event must have. Of
the directives that speak about an event the one with the longest target decides, then one with a
field before one without, and of several that name the same the last one.

A directive may also name a span, or a value for its field. Such a directive is about what happens
inside of spans. The platform opens none, so it lets no event through.

## The text of a filter

Directives are divided by commas. A directive is a level, a target, or a target and a level with `=`
between them; a target alone, or with nothing after `=`, lets every level through. Behind the target
the span may stand in brackets, and the field, in braces, behind the span. A word that is no level
is a target, blanks included.

Where a directive is cut is found in its text without the blanks around it, as numbers of encoded
bytes, but it is the text with the blanks that is cut there. So a directive with blanks in front and
`=` in it has no valid level, and if a cut falls inside a character, it cannot be made at all.
-/

namespace MonitorCore

/-- Up to which level events are let through; none lets nothing through. -/
abbrev Threshold := Option Level

/-- The field that a directive names, and the value that the field is to have. -/
structure FieldMatch where
  name : String
  value : Option String
  deriving DecidableEq, Repr

structure Directive where
  target : Option String := none
  span : Option String := none
  field : Option FieldMatch := none
  threshold : Threshold
  deriving DecidableEq, Repr

namespace Directive

/-- Whether the directive is about events outside of spans. -/
def isStatic (directive : Directive) : Bool :=
  directive.span.isNone && directive.field.all (·.value.isNone)

/-- Whether the directive speaks about an event. -/
def covers (directive : Directive) (event : Event) : Bool :=
  directive.isStatic
    && directive.target.all (·.toList.isPrefixOf event.target.toList)
    && directive.field.all fun field ↦ event.fields.any (·.1 == field.name)

/-- The more characters of the target a directive names, the more specific it is. -/
def specificity (directive : Directive) : Nat :=
  match directive.target with
  | none => 0
  | some start => start.length + 1

/-- Whether another directive counts before this one, if both speak about an event and the other one
comes later. -/
def yieldsTo (directive other : Directive) : Bool :=
  directive.specificity < other.specificity ||
    directive.specificity == other.specificity &&
      match directive.field, other.field with
      | none, _ => true
      | some _, none => false
      | some field, some later => field.name ≤ later.name

/-- Whether the directive lets events of a level through. -/
def admits (directive : Directive) (level : Level) : Bool :=
  match directive.threshold with
  | none => false
  | some greatest => level.verbosity ≤ greatest.verbosity

end Directive

abbrev Filter := List Directive

namespace Filter

/-- The directive that decides about an event. -/
def deciding? (filter : Filter) (event : Event) : Option Directive :=
  (filter.filter (·.covers event)).foldl
    (fun best directive ↦
      match best with
      | none => some directive
      | some other => if other.yieldsTo directive then some directive else some other)
    none

/-- Whether the filter lets an event through. -/
def enables (filter : Filter) (event : Event) : Bool :=
  match deciding? filter event with
  | none => false
  | some directive => directive.admits event.level

end Filter

/-! ## Reading filters -/

/-- Why a text is refused as a filter. -/
inductive Refusal where
  /-- A directive is not put together as one may be. -/
  | badDirective
  /-- What stands after `=` is no level. -/
  | badLevel
  /-- The value of a field is none that fields are compared with. -/
  | badValue (complaint : String)
  deriving DecidableEq, Repr

/-- Why a text gives no filter. -/
inductive FilterError where
  | refused (reason : Refusal)
  /-- A cut falls inside a character. -/
  | splitCharacter
  deriving DecidableEq, Repr

def Refusal.message : Refusal → String
  | badDirective => "invalid filter directive"
  | badLevel =>
    "error parsing level filter: expected one of \"off\", \"error\", \"warn\", \"info\", "
      ++ "\"debug\", \"trace\", or a number 0-5"
  | badValue complaint => "invalid field filter: " ++ complaint

/-- A small letter for a capital of the Latin alphabet. -/
def smallLetter (c : Char) : Char :=
  if 'A' ≤ c ∧ c ≤ 'Z' then Char.ofNat (c.toNat + 32) else c

def thresholdNames : List (String × Threshold) :=
  [("off", none), ("error", some .error), ("warn", some .warn), ("info", some .info),
   ("debug", some .debug), ("trace", some .trace)]

def thresholdOfNat? : Nat → Option Threshold
  | 0 => some none
  | 1 => some (some .error)
  | 2 => some (some .warn)
  | 3 => some (some .info)
  | 4 => some (some .debug)
  | 5 => some (some .trace)
  | _ => none

/-- The digits of a number, which may have a plus sign; none if there is anything else. -/
def unsigned? (cs : List Char) : Option Nat :=
  let digits :=
    match cs with
    | '+' :: rest => rest
    | cs => cs
  if digits.isEmpty || !digits.all Char.isDigit then none
  else some (digits.foldl (fun n c ↦ n * 10 + (c.toNat - '0'.toNat)) 0)

/-- The threshold that a word names, by a number or, capitals or not, by its name. -/
def threshold? (cs : List Char) : Option Threshold :=
  match unsigned? cs with
  | some n => thresholdOfNat? n
  | none => (thresholdNames.lookup (String.ofList (cs.map smallLetter)))

/-- Whether a directive may begin with the character. -/
def startsDirective (c : Char) : Bool :=
  c == '-' || c == ':' || c == '_' || Text.isAlphanumeric c

/-- The number of bytes that characters are encoded by. -/
def byteLength : List Char → Nat
  | [] => 0
  | c :: cs => c.utf8Size + byteLength cs

/-- A text in two parts, cut after a number of encoded bytes; none if the cut falls inside a
character or behind the end. -/
def cutAt? : Nat → List Char → Option (List Char × List Char)
  | 0, cs => some ([], cs)
  | _ + 1, [] => none
  | n + 1, c :: cs =>
    if c.utf8Size ≤ n + 1 then
      (cutAt? (n + 1 - c.utf8Size) cs).map fun (front, back) ↦ (c :: front, back)
    else none

/-- The part of a text between two numbers of encoded bytes. -/
def slice (start stop : Nat) (cs : List Char) : Except FilterError (List Char) :=
  match cutAt? stop cs with
  | none => .error .splitCharacter
  | some (front, _) =>
    match cutAt? start front with
    | none => .error .splitCharacter
    | some (_, part) => .ok part

/-- The rest of a text behind a number of encoded bytes. -/
def sliceFrom (start : Nat) (cs : List Char) : Except FilterError (List Char) :=
  match cutAt? start cs with
  | none => .error .splitCharacter
  | some (_, rest) => .ok rest

namespace Directive

/-- The directive of a word alone: a level, or else a target with blanks and all. -/
def ofWord (word : List Char) : Directive :=
  match threshold? word with
  | some threshold => { threshold }
  | none => { target := String.ofList word, threshold := some .trace }

/-! In what follows `text` is the text of a directive, `start` a number of its bytes, and the last
list of characters what is to be read from there on. -/

def readThreshold (text : List Char) (start : Nat) : Except FilterError Threshold := do
  match ← sliceFrom start text with
  | [] => return some .trace
  | word =>
    match threshold? word with
    | some threshold => return threshold
    | none => throw (.refused .badLevel)

/-- The threshold behind the closing bracket. -/
def readEnd (text : List Char) (start : Nat) : List Char → Except FilterError Threshold
  | [] => .ok (some .trace)
  | '=' :: _ => readThreshold text (start + 1)
  | _ => .error (.refused .badDirective)

variable [Platform]

/-- A field and its value, without the braces. What stands behind a second `=` is dropped. -/
def readMatch (cs : List Char) : Except FilterError FieldMatch :=
  match cs, cs.splitOn '=' with
  | [], _ => .error (.refused .badDirective)
  | _, name :: value :: _ =>
    match Platform.valueComplaint? (String.ofList value) with
    | none => .ok ⟨String.ofList name, some (String.ofList value)⟩
    | some complaint => .error (.refused (.badValue complaint))
  | _, _ => .ok ⟨String.ofList cs, none⟩

/-- What stands behind an opening brace: the field, and the threshold. -/
def readField (text : List Char) (start : Nat) (cs : List Char) :
    Except FilterError (FieldMatch × Threshold) := do
  let part := cs.takeWhile (· != '}')
  let stop := start + byteLength part
  match cs.drop part.length with
  | [] => throw (.refused .badDirective)
  | _ :: rest =>
    let field ← readMatch (← slice start stop text)
    match rest with
    | ']' :: rest => return (field, ← readEnd text (stop + 2) rest)
    | _ => throw (.refused .badDirective)

/-- What stands behind an opening bracket, with the target in front of it. -/
def readSpan (target : Option String) (text : List Char) (start : Nat) (cs : List Char) :
    Except FilterError Directive := do
  let part := cs.takeWhile fun c ↦ c != ']' && c != '{'
  let stop := start + byteLength part
  match cs.drop part.length with
  | [] => throw (.refused .badDirective)
  | c :: rest =>
    let span := String.ofList (← slice start stop text)
    if c = ']' then
      return { target, span, threshold := ← readEnd text (stop + 1) rest }
    else
      let (field, threshold) ← readField text (stop + 1) rest
      return { target, span := if span = "" then none else span, field, threshold }

/-- Reads one directive. Only its first character that is no blank is restricted. -/
def read (text : List Char) : Except FilterError Directive := do
  match Text.trim text with
  | [] => throw (.refused .badDirective)
  | '[' :: rest => readSpan none text 1 rest
  | c :: rest =>
    if !startsDirective c then throw (.refused .badDirective)
    else
      let name := (c :: rest).takeWhile fun d ↦ d != '=' && d != '['
      let stop := byteLength name
      match (c :: rest).drop name.length with
      | [] => return ofWord text
      | d :: rest =>
        let target := String.ofList (← slice 0 stop text)
        if d = '[' then readSpan target text (stop + 1) rest
        else return { target, threshold := ← readThreshold text (stop + 1) }

end Directive

/-- Reads the directives, the empty ones passed over. The first error counts. -/
def Filter.read [Platform] (s : String) : Except FilterError Filter :=
  ((s.toList.splitOn ',').filter (!·.isEmpty)).mapM Directive.read

end MonitorCore

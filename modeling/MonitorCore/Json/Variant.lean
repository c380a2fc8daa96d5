import MonitorCore.Json.Format

/-!
# Formats of enumerations

A value of an enumeration is written as its name. It is also read from an object whose only member
has that name and the value null.
-/

namespace MonitorCore.Json

/-- The names of an enumeration, in the order in which messages list them. -/
structure Variants (α : Type) where
  all : List α
  name : α → String

namespace Variants

variable {α : Type}

def ofName? (variants : Variants α) (name : String) : Option α :=
  variants.all.find? fun x ↦ variants.name x == name

/-- The value with the given name, or the list of all names. -/
def ofName (variants : Variants α) (name : String) : Except Mismatch α :=
  match variants.ofName? name with
  | some x => .ok x
  | none => .error (.unknownVariant name (variants.all.map variants.name))

/-- Reads a value of an enumeration from a JSON value. -/
def ofValue (variants : Variants α) : Value → Except Mismatch α
  | .text name => variants.ofName name
  | .object [(name, content)] =>
    match variants.ofName name with
    | .error reason => .error reason
    | .ok x =>
      match content with
      | .null => .ok x
      | v => .error (.wrongType v.found "unit")
  | .object _ => .error (.wrongValue .map "map with a single key")
  | v => .error (.wrongType v.found "string or map")

/-- Reads a name from the front of a text whose opening quotation mark has been read. -/
def readName (variants : Variants α) (cs : List Char) : Reading α :=
  (readString cs).andThen fun name rest ↦
    match variants.ofName name with
    | .ok x => .ok (x, rest)
    | .error reason => .error (.mismatch reason)

def readUnit (cs : List Char) : Reading Unit :=
  match skipGaps cs with
  | 'n' :: rest => expectWord ['u', 'l', 'l'] rest
  | cs => refuse "unit" cs

/-- Reads a value of an enumeration from a text. -/
def ofText (variants : Variants α) (cs : List Char) : Reading α :=
  match skipGaps cs with
  | '"' :: rest => variants.readName rest
  | '{' :: rest =>
    match skipGaps rest with
    | '"' :: rest =>
      (variants.readName rest).andThen fun x rest ↦
        (expectMark ':' rest).andThen fun _ rest ↦
          (readUnit rest).andThen fun _ rest ↦
            (expectMark '}' rest).map fun _ ↦ x
    | cs => refuse "variant identifier" cs
  | _ => .error .malformed

def format (variants : Variants α) : Format α where
  ofValue := variants.ofValue
  ofText := variants.ofText
  toJson x := .text (variants.name x)

/-! ## Alternatives -/

/-- The value that a JSON value names in either of its two forms. -/
def named? (variants : Variants α) : Value → Option α
  | .text name => variants.ofName? name
  | .object [(name, .null)] => variants.ofName? name
  | _ => none

end Variants

/-- The format of a type whose values are those of two enumerations. The first is tried first, and
what neither of them knows fits no alternative of the type `name`. -/
def eitherVariant {α β : Type} (name : String) (first : Variants α) (second : Variants β) :
    Format (α ⊕ β) where
  ofValue := choose
  ofText cs :=
    (readValue depthLimit cs).andThen fun value rest ↦
      match choose value with
      | .ok x => .ok (x, rest)
      | .error reason => .error (.mismatch reason)
  toJson
    | .inl x => .text (first.name x)
    | .inr y => .text (second.name y)
where
  /-- The alternative that a value names. -/
  choose (value : Value) : Except Mismatch (α ⊕ β) :=
    match first.named? value with
    | some x => .ok (.inl x)
    | none =>
      match second.named? value with
      | some y => .ok (.inr y)
      | none => .error (.noAlternative name)

end MonitorCore.Json

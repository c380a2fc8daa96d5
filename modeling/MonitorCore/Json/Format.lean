import MonitorCore.Json.Reader

/-!
# Formats

A `Format` says how the values of a type stand in JSON: how one is read from a JSON value, how one
is read from JSON text without building the JSON value first, and how it is written.

The two ways of reading accept the same documents but report differently. From a value, the object
has its members in key order; from a text, they come as they stand, and what was malformed after the
first misfit is never seen.
-/

namespace MonitorCore.Json

/-- The JSON format of a type. -/
structure Format (α : Type) where
  /-- Reads a value in canonical form. -/
  ofValue : Value → Except Mismatch α
  /-- Reads from the front of a text. -/
  ofText : List Char → Reading α
  /-- Writes a value. -/
  toJson : α → Value

namespace Format

def parse {α : Type} (format : Format α) (s : String) : Except Fault α :=
  match format.ofText s.toList with
  | .error fault => .error fault
  | .ok (x, rest) => if (skipGaps rest).isEmpty then .ok x else .error .malformed

def print {α : Type} (format : Format α) (x : α) : String := (format.toJson x).compact

/-- The format of a type that is the same as another up to names. -/
def along {α β : Type} (format : Format α) (forth : α → β) (back : β → α) : Format β where
  ofValue v := (format.ofValue v).map forth
  ofText cs := (format.ofText cs).map forth
  toJson x := format.toJson (back x)

/-! ## Simple values -/

/-- An identifier from a JSON number: integers from 0 to `2 ^ 64 - 1`. -/
def idOf (n : Number) : Except Mismatch UInt64 :=
  match n with
  | .integer i =>
    if 0 ≤ i then .ok (UInt64.ofNat i.toNat) else .error (.wrongValue (.integer i) "u64")
  | .float x => .error (.wrongType (.float x) "u64")

def id : Format UInt64 where
  ofValue
    | .number n => idOf n
    | v => .error (.wrongType v.found "u64")
  ofText cs :=
    match skipGaps cs with
    | [] => .error .malformed
    | c :: rest =>
      if startsNumber c then
        (readNumber (c :: rest)).andThen fun n rest ↦
          match idOf n with
          | .ok i => .ok (i, rest)
          | .error reason => .error (.mismatch reason)
      else refuse "u64" (c :: rest)
  toJson i := .ofNat i.toNat

def text : Format String where
  ofValue
    | .text s => .ok s
    | v => .error (.wrongType v.found "a string")
  ofText cs :=
    match skipGaps cs with
    | '"' :: rest => readString rest
    | cs => refuse "a string" cs
  toJson := .text

def flag : Format Bool where
  ofValue
    | .bool b => .ok b
    | v => .error (.wrongType v.found "a boolean")
  ofText cs :=
    match skipGaps cs with
    | [] => .error .malformed
    | c :: rest =>
      if c = 't' then (expectWord ['r', 'u', 'e'] rest).map fun _ ↦ true
      else if c = 'f' then (expectWord ['a', 'l', 's', 'e'] rest).map fun _ ↦ false
      else refuse "a boolean" (c :: rest)
  toJson := .bool

/-! ## Optional values and lists -/

/-- An optional value is null or the value. -/
def optional {α : Type} (format : Format α) : Format (Option α) where
  ofValue
    | .null => .ok none
    | v => (format.ofValue v).map some
  ofText cs :=
    match skipGaps cs with
    | 'n' :: rest => (expectWord ['u', 'l', 'l'] rest).map fun _ ↦ none
    | cs => (format.ofText cs).map some
  toJson
    | none => .null
    | some x => format.toJson x

def listOfValues {α : Type} (format : Format α) : List Value → Except Mismatch (List α)
  | [] => .ok []
  | v :: vs =>
    match format.ofValue v with
    | .error reason => .error reason
    | .ok x => (listOfValues format vs).map (x :: ·)

def list {α : Type} (format : Format α) : Format (List α) where
  ofValue
    | .array items => listOfValues format items
    | v => .error (.wrongType v.found "a sequence")
  ofText cs :=
    match skipGaps cs with
    | '[' :: rest =>
      (foldAll ']' (fun (items : Array α) rest ↦ (format.ofText rest).map items.push) #[] rest).map
        Array.toList
    | cs => refuse "a sequence" cs
  toJson xs := .array (xs.map format.toJson)

end Format

end MonitorCore.Json

import MonitorCore.Json.Format

/-!
# Formats of records

A record is written as an object with its fields in declaration order, and read from such an object
or from the array of its fields.

The format of a record is a list of `Slot`s over a *blank* record that has the defaults. A field
that was read becomes an update of the record, so one walk serves records of every type. A
required field that stays absent is an error, which is found only after everything present has
been read.
-/

namespace MonitorCore.Json

/-- A field of the records of type `ρ`. -/
structure Slot (ρ : Type) where
  key : String
  /-- Whether the field has no default. -/
  required : Bool
  ofValue : Value → Except Mismatch (ρ → ρ)
  ofText : List Char → Reading (ρ → ρ)
  toJson : ρ → Value

/-- The slot of a field with the given format. -/
def Slot.of {ρ α : Type} (key : String) (required : Bool) (format : Format α) (get : ρ → α)
    (set : α → ρ → ρ) : Slot ρ where
  key := key
  required := required
  ofValue v := (format.ofValue v).map set
  ofText cs := (format.ofText cs).map set
  toJson record := format.toJson (get record)

/-- The format of a record. -/
structure RecordFormat (ρ : Type) where
  /-- The name of the type, as it stands in messages. -/
  name : String
  /-- The record whose defaulted fields hold their defaults. -/
  blank : ρ
  /-- The fields in declaration order. -/
  slots : List (Slot ρ)

namespace RecordFormat

variable {ρ : Type}

/-- A record that is being read, and the keys read so far. -/
structure Draft (ρ : Type) where
  record : ρ
  seen : List String

def slot? (format : RecordFormat ρ) (key : String) : Option (Slot ρ) :=
  format.slots.find? fun slot ↦ slot.key == key

/-- Ends a record in object form: no required field may be absent, and the first one in declaration
order is reported. -/
def finish (format : RecordFormat ρ) (draft : Draft ρ) : Except Mismatch ρ :=
  match format.slots.find? fun slot ↦ slot.required && !draft.seen.contains slot.key with
  | some slot => .error (.missingField slot.key)
  | none => .ok draft.record

/-- The fields of the type, counted for a message. -/
def wanted (format : RecordFormat ρ) : String :=
  "struct " ++ format.name ++ " with " ++ String.ofList (Nat.toDigits 10 format.slots.length)
    ++ (if format.slots.length = 1 then " element" else " elements")

/-- Ends a record in array form after `count` elements: the fields that remain take their defaults,
and the first one that has none is where the array ended too early. -/
def finishArray (format : RecordFormat ρ) (record : ρ) : Nat → List (Slot ρ) → Except Mismatch ρ
  | _, [] => .ok record
  | count, slot :: slots =>
    if slot.required then .error (.wrongLength count format.wanted)
    else format.finishArray record (count + 1) slots

/-! ## From values -/

/-- Reads the members in their order. Members with unknown keys are passed over. -/
def readMembers (format : RecordFormat ρ) (draft : Draft ρ) :
    List (String × Value) → Except Mismatch (Draft ρ)
  | [] => .ok draft
  | (key, v) :: members =>
    match format.slot? key with
    | none => format.readMembers draft members
    | some slot =>
      if draft.seen.contains key then .error (.duplicateField key)
      else
        match slot.ofValue v with
        | .error reason => .error reason
        | .ok update => format.readMembers ⟨update draft.record, key :: draft.seen⟩ members

/-- Reads the elements of an array into the slots, of which `count` are filled already. -/
def readElements (format : RecordFormat ρ) (length : Nat) (record : ρ) (count : Nat) :
    List (Slot ρ) → List Value → Except Mismatch ρ
  | slots, [] => format.finishArray record count slots
  | [], _ :: _ => .error (.wrongLength length "fewer elements in array")
  | slot :: slots, v :: vs =>
    match slot.ofValue v with
    | .error reason => .error reason
    | .ok update => format.readElements length (update record) (count + 1) slots vs

def ofValue (format : RecordFormat ρ) : Value → Except Mismatch ρ
  | .object members =>
    match format.readMembers ⟨format.blank, []⟩ members with
    | .error reason => .error reason
    | .ok draft => format.finish draft
  | .array items => format.readElements items.length format.blank 0 format.slots items
  | v => .error (.wrongType v.found ("struct " ++ format.name))

/-! ## From text -/

/-- A misfit in a text. -/
def orMismatch {α : Type} (rest : List Char) : Except Mismatch α → Reading α
  | .ok x => .ok (x, rest)
  | .error reason => .error (.mismatch reason)

/-- Reads one member. A repeated key is reported before its value is looked at. -/
def readMember (format : RecordFormat ρ) (draft : Draft ρ) (cs : List Char) :
    Reading (Draft ρ) :=
  (readKey cs).andThen fun key rest ↦
    match format.slot? key with
    | none =>
      (expectMark ':' rest).andThen fun _ rest ↦ (skipValue rest).map fun _ ↦ draft
    | some slot =>
      if draft.seen.contains key then .error (.mismatch (.duplicateField key))
      else
        (expectMark ':' rest).andThen fun _ rest ↦
          (slot.ofText rest).map fun update ↦ ⟨update draft.record, key :: draft.seen⟩

/-- A record in array form that is being read: how many slots are filled, and those that are not. -/
structure Filling (ρ : Type) where
  record : ρ
  count : Nat
  unfilled : List (Slot ρ)

/-- Reads one element. One element too many is a fault of the text. -/
def readElement (state : Filling ρ) (cs : List Char) : Reading (Filling ρ) :=
  match state.unfilled with
  | [] => .error .malformed
  | slot :: slots =>
    (slot.ofText cs).map fun update ↦ ⟨update state.record, state.count + 1, slots⟩

/-- Reads a record from the front of a text. -/
def ofText (format : RecordFormat ρ) (cs : List Char) : Reading ρ :=
  match skipGaps cs with
  | '{' :: rest =>
    (foldAll '}' format.readMember ⟨format.blank, []⟩ rest).andThen fun draft rest ↦
      orMismatch rest (format.finish draft)
  | '[' :: rest =>
    (foldAll ']' readElement ⟨format.blank, 0, format.slots⟩ rest).andThen fun state rest ↦
      orMismatch rest (format.finishArray state.record state.count state.unfilled)
  | cs => refuse ("struct " ++ format.name) cs

/-! ## The format -/

/-- The members of a record, in declaration order. -/
def members (format : RecordFormat ρ) (record : ρ) : List (String × Value) :=
  format.slots.map fun slot ↦ (slot.key, slot.toJson record)

def toFormat (format : RecordFormat ρ) : Format ρ where
  ofValue := format.ofValue
  ofText := format.ofText
  toJson record := .object (format.members record)

end RecordFormat

end MonitorCore.Json

import MonitorCore.Decimal.Numeral
import MonitorCore.Settings.Document
import MonitorCore.Settings.Yaml.Token

/-!
# Values in YAML

What a scalar is depends on its tag and, without one, on its spelling. A scalar that does not fit
its tag is *absent*, and so is the value at an anchor that is not complete.

Only texts are keys, so a member with any other key is left out, whatever its value. An absent value
cannot be a key either: where it stands for one it is passed over, and the next value is the key.
-/

namespace MonitorCore.Yaml

open Decimal (Binary64)

/-- A value, or a part of one. -/
inductive Node where
  | absent
  | nil
  | boolean (b : Bool)
  | integer (i : Int)
  /-- A double; none for a spelling of one that no value is read from. -/
  | float (value : Option Binary64)
  | text (s : String)
  | list (items : List Node)
  | table (members : List (String × Node))
  deriving Repr

namespace Node

instance : Inhabited Node := ⟨absent⟩

/-! ## Scalars -/

/-- The integer with digits in the given base, with a sign or without. -/
def ofBase? (base : Nat) (cs : List Char) : Option Int :=
  let (negative, digits) := Decimal.splitSign cs
  if digits.isEmpty then none
  else (Decimal.ofBase? base digits).bind (Decimal.signed? negative)

/-- The integer that a plain scalar names. -/
def readInteger? : List Char → Option Int
  | '0' :: 'x' :: digits => ofBase? 16 digits
  | '0' :: 'o' :: digits => ofBase? 8 digits
  | '+' :: digits => Decimal.readInt64? digits
  | cs => Decimal.readInt64? cs

/-- Spellings of infinity and of what is no number that no double is read from. -/
def dottedNames : List String :=
  [".inf", ".Inf", ".INF", "+.inf", "+.Inf", "+.INF", "-.inf", "-.Inf", "-.INF", ".nan", ".NAN"]

def readFloat? (s : String) : Option Node :=
  if s ∈ dottedNames then some (.float none)
  else (Decimal.readDouble? s.toList).map fun x ↦ .float (some x)

/-- The value of a plain scalar without a tag. -/
def ofPlain (s : String) : Node :=
  match readInteger? s.toList with
  | some i => .integer i
  | none =>
    if s = "~" ∨ s = "null" then .nil
    else if s = "true" then .boolean true
    else if s = "false" then .boolean false
    else (readFloat? s).getD (.text s)

/-- The value of a plain scalar whose tag has the handle `!!`. -/
def ofTagged (name s : String) : Node :=
  match name with
  | "bool" =>
    if s = "true" then .boolean true else if s = "false" then .boolean false else .absent
  | "int" => ((Decimal.readInt64? s.toList).map integer).getD .absent
  | "float" => (readFloat? s).getD .absent
  | "null" => if s = "~" ∨ s = "null" then .nil else .absent
  | _ => .text s

/-- The value of a scalar with a tag or without. -/
def ofScalar (tag : Option Tag) (plain : Bool) (s : String) : Node :=
  if !plain then .text s
  else
    match tag with
    | none => ofPlain s
    | some (.core name) => ofTagged name s
    | some .other => .text s

/-! ## Mappings -/

/-- The members of a mapping from its keys and values in turn. -/
def pairUp : List Node → List (String × Node) → List (String × Node)
  | key :: value :: nodes, members =>
    match key with
    | absent => pairUp (value :: nodes) members
    | text s => pairUp nodes (Document.enter s value members)
    | _ => pairUp nodes members
  | _, members => members

/-- The mapping with keys and values in turn. -/
def ofPairs (nodes : List Node) : Node := .table (pairUp nodes [])

/-! ## Documents -/

mutual

/-- The value as a part of a document; none if there is a double in it that has no value. -/
def toDocument? : Node → Option Document
  | absent => some (.scalar .nil)
  | nil => some (.scalar .nil)
  | boolean b => some (.scalar (.boolean b))
  | integer i => some (.scalar (.integer i))
  | float value => value.map fun x ↦ .scalar (.float x)
  | text s => some (.text s)
  | list items => (itemsToDocuments? items).map .list
  | table members => (membersToDocuments? members).map .table

/-- The items of a list as parts of a document. -/
def itemsToDocuments? : List Node → Option (List Document)
  | [] => some []
  | item :: items =>
    match item.toDocument?, itemsToDocuments? items with
    | some document, some documents => some (document :: documents)
    | _, _ => none

/-- The members of a mapping as parts of a document. -/
def membersToDocuments? : List (String × Node) → Option (List (String × Document))
  | [] => some []
  | (key, value) :: members =>
    match value.toDocument?, membersToDocuments? members with
    | some document, some documents => some ((key, document) :: documents)
    | _, _ => none

end

end Node

end MonitorCore.Yaml

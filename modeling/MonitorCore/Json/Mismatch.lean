import MonitorCore.Json.Printer
import MonitorCore.Text.Quoted

/-!
# Values that do not fit

The reasons why a well formed JSON value is no value of the wanted type, and their wording. `wanted`
names the type in the words of the message.
-/

namespace MonitorCore.Json

open MonitorCore.Decimal (Binary64)

/-- What stands in the place of the wanted value. -/
inductive Found where
  | null
  | boolean (value : Bool)
  | integer (value : Int)
  | float (value : Binary64)
  | text (value : String)
  | sequence
  | map
  deriving DecidableEq, Repr

/-- What a number is, seen from a type that wants something else. -/
def Number.found : Number → Found
  | .integer i => .integer i
  | .float x => .float x

/-- What a value is, seen from a type that wants something else. -/
def Value.found : Value → Found
  | .null => .null
  | .bool b => .boolean b
  | .number n => n.found
  | .text s => .text s
  | .array _ => .sequence
  | .object _ => .map

def Found.describe : Found → String
  | .null => "null"
  | .boolean b => "boolean `" ++ (if b then "true" else "false") ++ "`"
  | .integer i => "integer `" ++ String.ofList (printInt i) ++ "`"
  | .float x => "floating point `" ++ floatLayout.write x ++ "`"
  | .text s => "string " ++ Text.quoted s
  | .sequence => "sequence"
  | .map => "map"

/-- Why a value is not one of the wanted type. -/
inductive Mismatch where
  /-- The value is of another type. -/
  | wrongType (found : Found) (wanted : String)
  /-- The value is of the right type but not in its range. -/
  | wrongValue (found : Found) (wanted : String)
  /-- The sequence has the wrong number of elements. -/
  | wrongLength (length : Nat) (wanted : String)
  /-- A required field is absent. -/
  | missingField (field : String)
  /-- A field is given twice. -/
  | duplicateField (field : String)
  /-- The name is none of the variants of the type. -/
  | unknownVariant (name : String) (variants : List String)
  /-- The value fits none of the alternatives of the type. -/
  | noAlternative (type : String)
  deriving DecidableEq, Repr

def ticked (name : String) : String := "`" ++ name ++ "`"

/-- The list of the variants of a type: two are joined by "or". -/
def expectedVariants : List String → String
  | [] => "there are no variants"
  | [name] => "expected " ++ ticked name
  | [name, other] => "expected " ++ ticked name ++ " or " ++ ticked other
  | names => "expected one of " ++ ", ".intercalate (names.map ticked)

def Mismatch.message : Mismatch → String
  | .wrongType found wanted => "invalid type: " ++ found.describe ++ ", expected " ++ wanted
  | .wrongValue found wanted => "invalid value: " ++ found.describe ++ ", expected " ++ wanted
  | .wrongLength length wanted =>
    "invalid length " ++ String.ofList (Nat.toDigits 10 length) ++ ", expected " ++ wanted
  | .missingField field => "missing field " ++ ticked field
  | .duplicateField field => "duplicate field " ++ ticked field
  | .unknownVariant name variants =>
    "unknown variant " ++ ticked name ++ ", " ++ expectedVariants variants
  | .noAlternative type => "data did not match any variant of untagged enum " ++ type

/-- Why a JSON text is not that of a value of the wanted type. -/
inductive Fault where
  /-- The text is no JSON text. -/
  | malformed
  /-- The text, as far as it was read, is JSON, but its value does not fit. -/
  | mismatch (reason : Mismatch)
  deriving DecidableEq, Repr

/-- The outcome of reading a value from the front of a text: the value and the text after it. -/
abbrev Reading (α : Type) := Except Fault (α × List Char)

def Reading.andThen {α β : Type} (first : Reading α) (next : α → List Char → Reading β) :
    Reading β :=
  match first with
  | .ok (x, rest) => next x rest
  | .error fault => .error fault

def Reading.map {α β : Type} (f : α → β) (first : Reading α) : Reading β :=
  first.andThen fun x rest ↦ .ok (f x, rest)

end MonitorCore.Json

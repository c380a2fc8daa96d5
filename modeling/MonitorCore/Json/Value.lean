import MonitorCore.Decimal.Shortest
import MonitorCore.Text.KeyMap

/-!
# JSON values

An object keeps its members as they stand in the text, repeated keys included. Its *canonical* form
has the members by increasing key and of repeated keys the last one; two texts mean the same value
if their canonical forms are equal.
-/

namespace MonitorCore.Json

open MonitorCore.Decimal (Binary64)

/-- A JSON number: an integer between `-2 ^ 63` and `2 ^ 64 - 1`, or else a double. -/
inductive Number where
  | integer (value : Int)
  | float (value : Binary64)
  deriving DecidableEq, Repr

/-- A JSON value. -/
inductive Value where
  | null
  | bool (value : Bool)
  | number (value : Number)
  | text (value : String)
  | array (items : List Value)
  | object (members : List (String × Value))
  deriving Repr

instance : Inhabited Value := ⟨.null⟩

namespace Value

def ofInt (i : Int) : Value := .number (.integer i)

def ofNat (n : Nat) : Value := .number (.integer n)

/-! ## Canonical form -/

mutual

/-- The value with the members of every object in key order, of repeated keys the last one. -/
def canonical : Value → Value
  | .array items => .array (canonicalItems items)
  | .object members => .object (Text.KeyMap.ofList (canonicalMembers members))
  | .null => .null
  | .bool b => .bool b
  | .number n => .number n
  | .text s => .text s

/-- The canonical forms of the items of an array. -/
def canonicalItems : List Value → List Value
  | [] => []
  | item :: items => canonical item :: canonicalItems items

/-- The members of an object, their values in canonical form. -/
def canonicalMembers : List (String × Value) → List (String × Value)
  | [] => []
  | (key, value) :: members => (key, canonical value) :: canonicalMembers members

end

/-- The value of a member of an object; null if there is none, or no object. -/
def member (key : String) : Value → Value
  | .object members => (Text.KeyMap.get? key members).getD .null
  | _ => .null

end Value

end MonitorCore.Json

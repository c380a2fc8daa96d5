import MonitorCore.Decimal.Word
import MonitorCore.Json.Reader

/-!
# Documents

What a configuration file says, whatever its format: tables, lists and scalars. No table has a key
twice. The members of a table stand in the order of the file until they are gone through; for this
there is no order, so they may be shuffled.
-/

namespace MonitorCore

open Decimal (Binary64)

/-- A single value of a document. -/
inductive Scalar where
  | nil
  | boolean (b : Bool)
  | integer (i : Int)
  | float (x : Binary64)
  | text (s : String)
  deriving DecidableEq, Repr

/-- A document or a part of it. -/
inductive Document where
  | scalar (value : Scalar)
  | list (items : List Document)
  | table (members : List (String × Document))
  deriving Repr

instance : Inhabited Document := ⟨.scalar .nil⟩

namespace Document

def text (s : String) : Document := .scalar (.text s)

/-- The members of a document whose root is a table; any other root counts as an empty table. -/
def root : Document → List (String × Document)
  | .table members => members
  | _ => []

/-- No table in the document has a key twice. -/
inductive Distinct : Document → Prop
  | scalar (value : Scalar) : Distinct (.scalar value)
  | list {items : List Document} (hitems : ∀ item ∈ items, Distinct item) : Distinct (.list items)
  | table {members : List (String × Document)} (hnodup : (members.map Prod.fst).Nodup)
      (hvalues : ∀ member ∈ members, Distinct member.2) : Distinct (.table members)

/-- Puts a value under a key, in place of what was there. -/
def enter {α : Type} (key : String) (value : α) : List (String × α) → List (String × α)
  | [] => [(key, value)]
  | (k, v) :: rest => if k = key then (k, value) :: rest else (k, v) :: enter key value rest

/-- Entering a value changes what is under its key, and nothing else. -/
theorem find?_enter {α : Type} (key other : String) (value : α) (members : List (String × α)) :
    (enter key value members).find? (fun entry ↦ entry.1 == other) =
      if key = other then some (key, value)
      else members.find? (fun entry ↦ entry.1 == other) := by
  induction members with
  | nil => by_cases h : key = other <;> simp [enter, h]
  | cons entry rest ih =>
    obtain ⟨k, v⟩ := entry
    rw [enter]
    by_cases hk : k = key
    · by_cases h : key = other <;> simp [hk, h]
    · rw [if_neg hk, List.find?_cons, List.find?_cons, ih]
      by_cases hko : k = other
      · have hne : key ≠ other := fun h ↦ hk (hko.trans h.symm)
        simp [hko, hne]
      · simp [beq_false_of_ne hko]

/-! ## Shuffled documents -/

end Document

/-- A way to bring the items of a list into another order, or to leave them in theirs. -/
structure Shuffle (α : Type) where
  apply : List α → List α
  perm (items : List α) : (apply items).Perm items

namespace Shuffle

def keep (α : Type) : Shuffle α := ⟨id, .refl⟩

def reverse (α : Type) : Shuffle α := ⟨List.reverse, List.reverse_perm⟩

end Shuffle

namespace Document

mutual

/-- The document with the members of its tables shuffled; how, depends on the keys that lead to a
table. Nobody looks into tables that are items of lists, so these stay as they are. -/
def shuffled (shuffle : List String → Shuffle (String × Document)) (keys : List String) :
    Document → Document
  | .table members => .table ((shuffle keys).apply (shuffledMembers shuffle keys members))
  | .scalar value => .scalar value
  | .list items => .list items

def shuffledMembers (shuffle : List String → Shuffle (String × Document)) (keys : List String) :
    List (String × Document) → List (String × Document)
  | [] => []
  | (key, document) :: members =>
    (key, shuffled shuffle (keys ++ [key]) document) :: shuffledMembers shuffle keys members

end

/-! ## Documents in JSON -/

/-- A number: an integer of 64 bits with a sign, or else a double. -/
def ofNumber : Json.Number → Scalar
  | .integer i => if i < (Decimal.signedLimit : Int) then .integer i else .float (Binary64.ofInt i)
  | .float x => .float x

mutual

def ofJson : Json.Value → Document
  | .null => .scalar .nil
  | .bool b => .scalar (.boolean b)
  | .number n => .scalar (ofNumber n)
  | .text s => .scalar (.text s)
  | .array items => .list (ofJsonItems items)
  | .object members => .table (ofJsonMembers members)

/-- The items of a JSON array as documents. -/
def ofJsonItems : List Json.Value → List Document
  | [] => []
  | item :: items => ofJson item :: ofJsonItems items

/-- The members of a JSON object as documents. -/
def ofJsonMembers : List (String × Json.Value) → List (String × Document)
  | [] => []
  | (key, value) :: members => (key, ofJson value) :: ofJsonMembers members

end

def readJson (s : String) : Option Document := (Json.parse s).map ofJson

end Document

end MonitorCore

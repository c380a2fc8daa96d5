import MonitorCore.Attempt
import MonitorCore.Host.Platform
import MonitorCore.Settings.KeyPath

/-!
# Settings

The tree that the layers of a configuration are merged into. Every part remembers its *origin*, the
layer it came from, so that a value of the wrong type can be traced; a table that several layers can
add to has no origin.

A value is put at a key path. What is missing on the way is made, and what is in the way is
replaced. A table is merged into the table that is there, member by member; every other value
replaces what is there. A path that leads in front of a list, or farther behind its end than there
is room for, breaks the attempt off.
-/

namespace MonitorCore

/-- A setting, or a tree of settings. -/
inductive Setting where
  | scalar (origin : Option String) (value : Scalar)
  | list (origin : Option String) (items : List Setting)
  | table (origin : Option String) (members : List (String × Setting))
  deriving Repr

instance : Inhabited Setting := ⟨.scalar none .nil⟩

namespace Setting

/-- What stands at a place before a value is put there. -/
def nothing : Setting := .scalar none .nil

def empty : Setting := .table none []

/-! ## Documents as settings -/

mutual

/-- A document whose parts all have the same origin. -/
def ofDocument (origin : String) : Document → Setting
  | .scalar value => .scalar (some origin) value
  | .list items => .list (some origin) (ofItems origin items)
  | .table members => .table (some origin) (ofMembers origin members)

def ofItems (origin : String) : List Document → List Setting
  | [] => []
  | item :: items => ofDocument origin item :: ofItems origin items

def ofMembers (origin : String) : List (String × Document) → List (String × Setting)
  | [] => []
  | (key, value) :: members => (key, ofDocument origin value) :: ofMembers origin members

end

/-! ## Looking up -/

/-- The members of a table; other settings have none. -/
def members : Setting → List (String × Setting)
  | .table _ members => members
  | _ => []

def member? (key : String) (setting : Setting) : Option Setting :=
  (List.find? (fun entry ↦ entry.1 == key) setting.members).map (·.2)

/-! ## Merging -/

/-- The table itself, or an empty table in place of anything else. -/
def asTable : Setting → Setting
  | .table origin members => .table origin members
  | _ => empty

def withMember (key : String) (value : Setting) : Setting → Setting
  | .table origin members => .table origin (Document.enter key value members)
  | _ => .table none [(key, value)]

/-- Setting a member changes what is under its key, and nothing else. -/
theorem member?_withMember (key other : String) (value setting : Setting) :
    member? other (withMember key value setting) =
      if key = other then some value else member? other setting := by
  cases setting with
  | table origin members =>
    rw [withMember, member?, member?, Setting.members, Setting.members, Document.find?_enter]
    split <;> rfl
  | scalar origin value => by_cases h : key = other <;> simp [withMember, member?, members, h]
  | list origin items => by_cases h : key = other <;> simp [withMember, member?, members, h]

mutual

/-- What stands at a place where `old` stood, after a setting was put there. -/
def merge (old : Option Setting) : Setting → Setting
  | .table _ incoming => mergeMembers (old.getD empty) incoming
  | .scalar origin value => .scalar origin value
  | .list origin items => .list origin items

/-- Puts the members one after the other under their keys. -/
def mergeMembers (table : Setting) : List (String × Setting) → Setting
  | [] => table
  | (key, value) :: incoming =>
    mergeMembers (withMember key (merge (member? key table) value) table) incoming

end

def putMember (key : String) (value table : Setting) : Setting :=
  withMember key (merge (member? key table) value) table

/-! ## Key paths -/

variable [Platform]

/-- The place of an index in a list of the given length; none in front of the list, and none where
the list would have no room. -/
def placeOf (index : Int) (length : Nat) : Option Nat :=
  if 0 ≤ index then if index.toNat < Platform.room then some index.toNat else none
  else if index.natAbs ≤ length then some (length - index.natAbs)
  else none

/-- Changes the setting at an index of a list, or of an empty list in place of anything else. The
list is filled up to the index; without a place for the index the attempt breaks off. -/
def changeItem (index : Int) (change : Setting → Attempt Setting) (list : Setting) :
    Attempt Setting :=
  let (origin, items) :=
    match list with
    | .list origin items => (origin, items)
    | _ => (none, [])
  match placeOf index items.length with
  | none => .broken
  | some n =>
    (change (items.getD n nothing)).map fun item ↦
      .list origin ((items ++ List.replicate (n + 1 - items.length) nothing).set n item)

/-- Changes the setting at a key path; what is in the way is replaced. -/
def change : KeyPath → (Setting → Attempt Setting) → Setting → Attempt Setting
  | .top key, f, root =>
    (f ((member? key root).getD nothing)).map fun value ↦ withMember key value root
  | .child parent key, f, root =>
    change parent
      (fun table ↦
        (f ((member? key table).getD nothing)).map fun value ↦ withMember key value table.asTable)
      root
  | .item parent index, f, root => change parent (changeItem index f) root

/-- Puts a setting at a key path. -/
def put (path : KeyPath) (value root : Setting) : Attempt Setting :=
  match path with
  | .top key => .ended (putMember key value root)
  | .child parent key =>
    change parent (fun table ↦ .ended (putMember key value table.asTable)) root
  | .item parent index => change parent (changeItem index fun _ ↦ .ended value) root

/-- Puts the settings of a layer, each under the path that its key spells. -/
def putAll : List (String × Setting) → Setting → Attempt Setting
  | [], root => .ended root
  | (key, value) :: layer, root => (put (.ofText key) value root).bind (putAll layer)

end Setting

end MonitorCore

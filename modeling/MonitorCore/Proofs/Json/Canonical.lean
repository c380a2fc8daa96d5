import MonitorCore.Json.Value

/-!
# Values without repeated keys

Where no object repeats a key, the canonical form of a value is the value up to the order of
members: nothing is dropped. What does not depend on that order is the same of both.
-/

namespace MonitorCore.Json.Value

variable {v : Value} {items : List Value} {members : List (String × Value)}

mutual

/-- No object within the value repeats a key. -/
def Unrepeated : Value → Prop
  | .array items => UnrepeatedItems items
  | .object members => (members.map Prod.fst).Nodup ∧ UnrepeatedMembers members
  | .null => True
  | .bool _ => True
  | .number _ => True
  | .text _ => True

/-- No object within the items of an array repeats a key. -/
def UnrepeatedItems : List Value → Prop
  | [] => True
  | item :: items => Unrepeated item ∧ UnrepeatedItems items

/-- No object within the values of members repeats a key. -/
def UnrepeatedMembers : List (String × Value) → Prop
  | [] => True
  | (_, value) :: members => Unrepeated value ∧ UnrepeatedMembers members

end

theorem unrepeated_array : (array items).Unrepeated ↔ ∀ v ∈ items, v.Unrepeated := by
  rw [Unrepeated]
  induction items with
  | nil => simp [UnrepeatedItems]
  | cons v items ih => rw [UnrepeatedItems, ih, List.forall_mem_cons]

theorem unrepeated_object : (object members).Unrepeated ↔
    (members.map Prod.fst).Nodup ∧ ∀ member ∈ members, member.2.Unrepeated := by
  rw [Unrepeated]
  suffices h : UnrepeatedMembers members ↔ ∀ member ∈ members, member.2.Unrepeated by rw [h]
  induction members with
  | nil => simp [UnrepeatedMembers]
  | cons member members ih => rw [UnrepeatedMembers, ih, List.forall_mem_cons]

theorem canonicalItems_eq_map (items : List Value) :
    canonicalItems items = items.map canonical := by
  induction items with
  | nil => rfl
  | cons v items ih => rw [canonicalItems, ih, List.map_cons]

theorem canonicalMembers_eq_map (members : List (String × Value)) :
    canonicalMembers members = members.map fun member ↦ (member.1, member.2.canonical) := by
  induction members with
  | nil => rfl
  | cons member members ih => rw [canonicalMembers, ih, List.map_cons]

theorem canonicalMembers_keys (members : List (String × Value)) :
    (canonicalMembers members).map Prod.fst = members.map Prod.fst := by
  rw [canonicalMembers_eq_map, List.map_map]
  rfl

/-- **Nothing is dropped.** The canonical form has the members in another order. -/
theorem ofList_canonicalMembers_perm (h : (members.map Prod.fst).Nodup) :
    (Text.KeyMap.ofList (canonicalMembers members)).Perm (canonicalMembers members) :=
  Text.KeyMap.ofList_perm (by rwa [canonicalMembers_keys])

theorem canonical_object_single (key : String) (v : Value) :
    (object [(key, v)]).canonical = object [(key, v.canonical)] := rfl

theorem canonical_object_several {first second : String × Value}
    (h : ((first :: second :: members).map Prod.fst).Nodup) :
    ∃ first' second' members',
      (object (first :: second :: members)).canonical = object (first' :: second' :: members') := by
  have hlength := (ofList_canonicalMembers_perm h).length_eq
  rw [canonical]
  generalize Text.KeyMap.ofList _ = entries at hlength
  match entries with
  | [] => exact absurd hlength (by simp [canonicalMembers])
  | [_] => exact absurd hlength (by simp [canonicalMembers])
  | first' :: second' :: members' => exact ⟨first', second', members', rfl⟩

theorem canonical_eq_null : v.canonical = .null ↔ v = .null := by
  cases v <;> simp [canonical]

end MonitorCore.Json.Value

import Mathlib.Data.List.Nodup
import Mathlib.Data.List.Pairwise
import MonitorCore.Json.Record
import MonitorCore.Proofs.Json.Agreement

/-!
# The members of a record

A record is read by a walk over the members of an object, each of which changes the record that is
being read. If no key is repeated and the changes of different fields do not meet
(`RecordFormat.Independent`), the order of the walk is of no account: the result is told by the set
of members alone (`toOption_ofValue_object`, `toOption_ofValue_of_perm`).
-/

namespace MonitorCore.Json

variable {ρ α β : Type}

theorem map_eq_ok {ε : Type} {outcome : Except ε α} {f : α → β} {y : β} :
    outcome.map f = .ok y ↔ ∃ x, outcome = .ok x ∧ f x = y := by
  cases outcome <;> simp [Except.map]

/-! ## Fields that do not meet -/

/-- The changes of two fields may be made in either order. -/
def Slot.Commutes (slot other : Slot ρ) : Prop :=
  ∀ v w update change, slot.ofValue v = .ok update → other.ofValue w = .ok change →
    ∀ record, update (change record) = change (update record)

/-- Two fields do not meet. -/
structure Slot.Apart (slot other : Slot ρ) : Prop where
  keys : slot.key ≠ other.key
  commutes : slot.Commutes other

instance : Std.Symm (Slot.Apart (ρ := ρ)) where
  symm _ _ h := ⟨h.keys.symm, fun _ _ _ _ hw hv record ↦ (h.commutes _ _ _ _ hv hw record).symm⟩

theorem Slot.commutes_of {key key' : String} {required required' : Bool} {format : Format α}
    {format' : Format β} {get : ρ → α} {get' : ρ → β} {set : α → ρ → ρ} {set' : β → ρ → ρ}
    (h : ∀ x y record, set x (set' y record) = set' y (set x record)) :
    (Slot.of key required format get set).Commutes (.of key' required' format' get' set') := by
  intro v w update change hv hw record
  obtain ⟨x, -, rfl⟩ := map_eq_ok.1 hv
  obtain ⟨y, -, rfl⟩ := map_eq_ok.1 hw
  exact h x y record

theorem Slot.apart_of {key key' : String} {required required' : Bool} {format : Format α}
    {format' : Format β} {get : ρ → α} {get' : ρ → β} {set : α → ρ → ρ} {set' : β → ρ → ρ}
    (hkey : key ≠ key') (h : ∀ x y record, set x (set' y record) = set' y (set x record)) :
    (Slot.of key required format get set).Apart (.of key' required' format' get' set') :=
  ⟨hkey, Slot.commutes_of h⟩

namespace RecordFormat

variable (format : RecordFormat ρ)

/-- The keys of the fields differ, and their changes do not meet. -/
def Independent : Prop := format.slots.Pairwise Slot.Apart

/-! ## One member after the other -/

def addMember (draft : Draft ρ) (member : String × Value) : Option (Draft ρ) :=
  match format.slot? member.1 with
  | none => some draft
  | some slot =>
    if draft.seen.contains member.1 then none
    else (slot.ofValue member.2).toOption.map fun update ↦
      ⟨update draft.record, member.1 :: draft.seen⟩

theorem toOption_readMembers (draft : Draft ρ) (members : List (String × Value)) :
    (format.readMembers draft members).toOption = members.foldlM format.addMember draft := by
  induction members generalizing draft with
  | nil => rfl
  | cons member members ih =>
    obtain ⟨key, v⟩ := member
    rw [readMembers, List.foldlM_cons, addMember]
    cases format.slot? key with
    | none => simp [ih]
    | some slot =>
      simp only
      split
      · rfl
      · cases slot.ofValue v with
        | error reason => rfl
        | ok update => simp [ih]

theorem toOption_ofValue_object_eq_bind (members : List (String × Value)) :
    (format.ofValue (.object members)).toOption =
      (members.foldlM format.addMember ⟨format.blank, []⟩).bind fun draft ↦
        (format.finish draft).toOption := by
  rw [← toOption_readMembers, ofValue]
  cases format.readMembers ⟨format.blank, []⟩ members <;> rfl

/-- One more member in a record, whatever was read before. -/
def enter (record : Option ρ) (member : String × Value) : Option ρ :=
  record.bind fun record ↦
    match format.slot? member.1 with
    | none => some record
    | some slot => (slot.ofValue member.2).toOption.map fun update ↦ update record

/-- The keys of a list of members that are keys of the record. -/
def known (members : List (String × Value)) : List String :=
  (members.map Prod.fst).filter fun key ↦ (format.slot? key).isSome

theorem foldl_enter_none (members : List (String × Value)) :
    members.foldl format.enter none = none := by
  induction members with
  | nil => rfl
  | cons member members ih => exact ih

/-- Where no key is repeated, what was seen is of no account for the record. -/
theorem foldlM_addMember {draft : Draft ρ} {members : List (String × Value)}
    (hnodup : (members.map Prod.fst).Nodup)
    (hfresh : ∀ member ∈ members, member.1 ∉ draft.seen) :
    members.foldlM format.addMember draft =
      (members.foldl format.enter (some draft.record)).map fun record ↦
        ⟨record, (format.known members).reverse ++ draft.seen⟩ := by
  induction members generalizing draft with
  | nil => rfl
  | cons member members ih =>
    obtain ⟨key, v⟩ := member
    rw [List.map_cons, List.nodup_cons] at hnodup
    have hkey : key ∉ draft.seen := hfresh _ (.head _)
    have hrest : ∀ member ∈ members, member.1 ∉ key :: draft.seen := fun member hmember ↦ by
      rw [List.mem_cons, not_or]
      exact ⟨Text.KeyMap.ne_of_not_mem_keys hnodup.1 hmember, hfresh _ (.tail _ hmember)⟩
    rw [List.foldlM_cons, List.foldl_cons, addMember, enter, Option.bind_some, known, List.map_cons]
    cases hslot : format.slot? key with
    | none =>
      rw [List.filter_cons_of_neg (by simp [hslot])]
      exact ih hnodup.2 fun member hmember ↦ hfresh _ (.tail _ hmember)
    | some slot =>
      rw [List.filter_cons_of_pos (by simp [hslot]), List.reverse_cons, List.append_assoc,
        List.singleton_append]
      simp only [List.contains_eq_mem, hkey, decide_false, Bool.false_eq_true, if_false]
      cases slot.ofValue v with
      | error reason =>
        rw [toOption_error, Option.map_none, Option.map_none, foldl_enter_none]
        rfl
      | ok update => exact @ih ⟨update draft.record, key :: draft.seen⟩ hnodup.2 hrest

/-! ## The end of the object -/

/-- Every field that has no default is among the keys. -/
def complete (keys : List String) : Bool :=
  format.slots.all fun slot ↦ !slot.required || keys.contains slot.key

theorem toOption_finish (draft : Draft ρ) :
    (format.finish draft).toOption =
      if format.complete draft.seen then some draft.record else none := by
  rw [finish]
  split
  · next slot hslot =>
    have hmissing := List.find?_some hslot
    have hmem := List.mem_of_find?_eq_some hslot
    rw [if_neg, toOption_error]
    intro hcomplete
    have hgiven := List.all_eq_true.1 hcomplete slot hmem
    revert hmissing hgiven
    cases slot.required <;> cases draft.seen.contains slot.key <;> decide
  · next hnone =>
    rw [if_pos, toOption_ok]
    refine List.all_eq_true.2 fun slot hmem ↦ ?_
    have hgiven := List.find?_eq_none.1 hnone slot hmem
    revert hgiven
    cases slot.required <;> cases draft.seen.contains slot.key <;> decide

theorem complete_congr {keys keys' : List String}
    (h : ∀ slot ∈ format.slots, slot.key ∈ keys ↔ slot.key ∈ keys') :
    format.complete keys = format.complete keys' := by
  rw [Bool.eq_iff_iff, complete, complete, List.all_eq_true, List.all_eq_true]
  refine forall₂_congr fun slot hmem ↦ ?_
  simp [h slot hmem]

theorem isSome_slot?_of_mem {slot : Slot ρ} (h : slot ∈ format.slots) :
    (format.slot? slot.key).isSome := by
  rw [slot?, List.find?_isSome]
  exact ⟨slot, h, by simp⟩

/-- **A record in object form.** Where no key is repeated, it has its required fields, and each
member with the key of a field changes that field. -/
theorem toOption_ofValue_object {members : List (String × Value)}
    (hnodup : (members.map Prod.fst).Nodup) :
    (format.ofValue (.object members)).toOption =
      if format.complete (members.map Prod.fst) then
        members.foldl format.enter (some format.blank) else none := by
  have hcomplete : format.complete (format.known members).reverse =
      format.complete (members.map Prod.fst) :=
    format.complete_congr fun slot hslot ↦ by
      rw [List.mem_reverse, known, List.mem_filter, and_iff_left (format.isSome_slot?_of_mem hslot)]
  rw [toOption_ofValue_object_eq_bind, format.foldlM_addMember hnodup (by simp)]
  cases members.foldl format.enter (some format.blank) with
  | none => rw [ite_self]; rfl
  | some record =>
    rw [Option.map_some, Option.bind_some, toOption_finish, List.append_nil, hcomplete]

theorem slot?_eq_some {key : String} {slot : Slot ρ} (h : format.slot? key = some slot) :
    slot ∈ format.slots ∧ slot.key = key :=
  ⟨List.mem_of_find?_eq_some h, by simpa using List.find?_some h⟩

theorem Independent.commutes {format : RecordFormat ρ} (h : format.Independent)
    {slot other : Slot ρ} (hslot : slot ∈ format.slots) (hother : other ∈ format.slots)
    (hne : slot.key ≠ other.key) : slot.Commutes other :=
  (h.forall hslot hother fun heq ↦ hne (heq ▸ rfl)).commutes

theorem enter_comm {format : RecordFormat ρ} (hindependent : format.Independent)
    {member other : String × Value} (hne : member.1 ≠ other.1) (record : Option ρ) :
    format.enter (format.enter record member) other =
      format.enter (format.enter record other) member := by
  cases record with
  | none => rfl
  | some record =>
    simp only [enter, Option.bind_some]
    cases hslot : format.slot? member.1 with
    | none => cases (format.slot? other.1) <;> simp
    | some slot =>
      cases hother : format.slot? other.1 with
      | none => simp
      | some slot' =>
        obtain ⟨hmem, hkey⟩ := slot?_eq_some format hslot
        obtain ⟨hmem', hkey'⟩ := slot?_eq_some format hother
        have hcommutes := hindependent.commutes hmem hmem' (by rwa [hkey, hkey'])
        cases hupdate : slot.ofValue member.2 with
        | error reason => cases slot'.ofValue other.2 <;> simp [hupdate]
        | ok update =>
          cases hchange : slot'.ofValue other.2 with
          | error reason => simp [hchange]
          | ok change => simp [hupdate, hchange, hcommutes _ _ _ _ hupdate hchange]

/-- **The order of members** is of no account. -/
theorem toOption_ofValue_of_perm {members members' : List (String × Value)}
    (hindependent : format.Independent) (hperm : members.Perm members')
    (hnodup : (members.map Prod.fst).Nodup) :
    (format.ofValue (.object members)).toOption = (format.ofValue (.object members')).toOption := by
  have hkeys := hperm.map Prod.fst
  rw [format.toOption_ofValue_object hnodup,
    format.toOption_ofValue_object (hkeys.nodup_iff.1 hnodup),
    format.complete_congr fun slot _ ↦ hkeys.mem_iff]
  congr 1
  refine hperm.foldl_eq' (fun member hmem other hmem' record ↦ ?_) _
  by_cases heq : member.1 = other.1
  · rw [List.inj_on_of_nodup_map hnodup hmem hmem' heq]
  · exact enter_comm hindependent heq record

end RecordFormat

end MonitorCore.Json

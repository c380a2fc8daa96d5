import MonitorCore.Proofs.Json.RoundTrip

/-!
# Records in array form

An array gives its elements to the fields in declaration order, and the fields that are left take
their defaults. So it says the same as the object that has these elements under the keys of the
first fields: both walks make the same changes to the same blank record, one after the other. They
end differently, the one at the fields it has not come to, the other at the keys it has not seen,
but these are the same fields (`toOption_readElements_eq`). What has no counterpart among objects is
an array with more elements than there are fields, and it is refused.
-/

namespace MonitorCore.Json

variable {ρ : Type}

namespace RecordFormat

variable {format : RecordFormat ρ}

/-- The keys of the fields in declaration order. -/
def keys (format : RecordFormat ρ) : List String := format.slots.map Slot.key

theorem Independent.nodup (h : format.Independent) : format.keys.Nodup :=
  List.Pairwise.map _ (fun _ _ hapart ↦ hapart.keys) h

/-! ## The end of the array -/

theorem toOption_finishArray (record : ρ) (count : Nat) (slots : List (Slot ρ)) :
    (format.finishArray record count slots).toOption =
      if slots.all (fun slot ↦ !slot.required) then some record else none := by
  induction slots generalizing count with
  | nil => rfl
  | cons slot slots ih =>
    rw [finishArray, List.all_cons]
    cases slot.required with
    | true => rfl
    | false => simpa using ih (count + 1)

/-- An element too many is refused, if not one before it. -/
theorem toOption_readElements_of_lt {length count : Nat} {record : ρ} {slots : List (Slot ρ)}
    {items : List Value} (h : slots.length < items.length) :
    (format.readElements length record count slots items).toOption = none := by
  induction items generalizing record count slots with
  | nil => exact absurd h (Nat.not_lt_zero _)
  | cons v items ih =>
    cases slots with
    | nil => rfl
    | cons slot slots =>
      rw [readElements]
      cases slot.ofValue v with
      | error reason => rfl
      | ok update => exact ih (Nat.lt_of_succ_lt_succ h)

/-! ## The two walks -/

/-- Where all fields up to some have been seen and none after it, a record is complete if those that
are left have defaults. -/
theorem complete_eq_all {filled left : List (Slot ρ)} {seen : List String}
    (hslots : format.slots = filled ++ left) (hseen : ∀ slot ∈ filled, slot.key ∈ seen)
    (hleft : ∀ slot ∈ left, slot.key ∉ seen) :
    format.complete seen = left.all fun slot ↦ !slot.required := by
  have hfilled : filled.all (fun slot ↦ !slot.required || seen.contains slot.key) = true :=
    List.all_eq_true.2 fun slot hslot ↦ by simp [hseen slot hslot]
  rw [complete, hslots, List.all_append, hfilled, Bool.true_and]
  rw [Bool.eq_iff_iff, List.all_eq_true, List.all_eq_true]
  exact forall₂_congr fun slot hslot ↦ by simp [hleft slot hslot]

/-- **The two walks agree.** The elements of an array change the record as the members do that have
them under the keys of the fields. -/
theorem toOption_readElements_eq (h : format.Independent) {filled left : List (Slot ρ)}
    {draft : Draft ρ} {length count : Nat} {items : List Value}
    (hslots : format.slots = filled ++ left) (hseen : ∀ slot ∈ filled, slot.key ∈ draft.seen)
    (hleft : ∀ slot ∈ left, slot.key ∉ draft.seen) (hfew : items.length ≤ left.length) :
    (format.readElements length draft.record count left items).toOption =
      (((left.map Slot.key).zip items).foldlM format.addMember draft).bind fun draft ↦
        (format.finish draft).toOption := by
  induction items generalizing filled left draft count with
  | nil =>
    have hcomplete := complete_eq_all hslots hseen hleft
    rw [readElements, toOption_finishArray, List.zip_nil_right, List.foldlM_nil]
    simp only [Option.pure_def, Option.bind_some, toOption_finish, hcomplete]
  | cons v items ih =>
    cases left with
    | nil => exact absurd hfew (Nat.not_succ_le_zero _)
    | cons slot left =>
      have hslot : format.slot? slot.key = some slot := h.slot?_key (by simp [hslots])
      have hfresh : draft.seen.contains slot.key = false := by simpa using hleft slot (.head _)
      rw [readElements, List.map_cons, List.zip_cons_cons, List.foldlM_cons, addMember]
      simp only [hslot, hfresh, Bool.false_eq_true, if_false]
      cases slot.ofValue v with
      | error reason => rfl
      | ok update =>
        -- the next field differs in its key from all fields before it
        have hkeys : ∀ other ∈ left, other.key ≠ slot.key := by
          have hapart : (filled ++ slot :: left).Pairwise Slot.Apart := hslots ▸ h
          exact fun other hother ↦
            ((List.pairwise_cons.1 (List.pairwise_append.1 hapart).2.1).1 other hother).keys.symm
        refine @ih (filled ++ [slot]) left ⟨update draft.record, slot.key :: draft.seen⟩ _
          (by simp [hslots]) ?_ ?_ (Nat.le_of_succ_le_succ hfew)
        · intro other hother
          rcases List.mem_append.1 hother with hother | hother
          · exact .tail _ (hseen other hother)
          · rw [List.mem_singleton.1 hother]
            exact .head _
        · intro other hother hmem
          rcases List.mem_cons.1 hmem with heq | hmem
          · exact hkeys other hother heq
          · exact hleft other (.tail _ hother) hmem

/-- **Array form.** An array is read as the object that gives its elements to the first fields, and
is refused if there are not as many fields. -/
theorem toOption_ofValue_array (h : format.Independent) (items : List Value) :
    (format.ofValue (.array items)).toOption =
      if items.length ≤ format.keys.length then
        (format.ofValue (.object (format.keys.zip items))).toOption
      else none := by
  rw [keys, List.length_map, toOption_ofValue_object_eq_bind]
  split_ifs with hlength
  · exact @toOption_readElements_eq _ _ h [] format.slots ⟨format.blank, []⟩ _ _ _ rfl nofun
      (fun _ _ ↦ List.not_mem_nil) hlength
  · exact toOption_readElements_of_lt (Nat.lt_of_not_le hlength)

theorem Independent.nodup_zip (h : format.Independent) (items : List Value) :
    ((format.keys.zip items).map Prod.fst).Nodup := by
  rw [List.zip_eq_zip_take_min, List.map_fst_zip (by simp)]
  exact h.nodup.sublist (List.take_sublist ..)

theorem ofValue_array_eq_ok_iff (h : format.Independent) {items : List Value}
    {members : List (String × Value)} (hperm : members.Perm (format.keys.zip items)) (record : ρ) :
    format.ofValue (.array items) = .ok record ↔
      items.length ≤ format.keys.length ∧ format.ofValue (.object members) = .ok record := by
  have hnodup := (hperm.map Prod.fst).nodup_iff.2 (h.nodup_zip items)
  rw [← toOption_eq_some, ← toOption_eq_some, toOption_ofValue_array h,
    toOption_ofValue_of_perm format h hperm hnodup]
  split_ifs with hlength
  · rw [and_iff_right hlength]
  · simp [hlength]

end RecordFormat

end MonitorCore.Json

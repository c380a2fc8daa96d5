import MonitorCore.Proofs.Json.Members
import MonitorCore.Proofs.Json.Skip

/-!
# Records, from text and from values

A record is read alike from a text and from a value if each of its fields is. In a text the members
stand in any order, and those with unknown keys are passed over; in a value they stand in key order.
In both, the members change the record one by one, and the order is of no account.
-/

namespace MonitorCore.Json

variable {ρ α : Type} {depth : Nat} {cs rest : List Char} {v : Value}

/-- Of a text that holds a value up to `depth`, a field reads the same as of the value. -/
def Slot.AgreesAt (depth : Nat) (slot : Slot ρ) : Prop :=
  ∀ ⦃cs v rest⦄, readValue depth cs = .ok (v, rest) → v.Unrepeated →
    Gives (slot.ofText cs) (slot.ofValue v.canonical).toOption rest

theorem Format.AgreesAt.slot {format : Format α} (h : format.AgreesAt depth) (key : String)
    (required : Bool) (get : ρ → α) (set : α → ρ → ρ) :
    (Slot.of key required format get set).AgreesAt depth := by
  intro cs v rest hv hunrepeated
  simp only [Slot.of, toOption_map]
  exact (h hv hunrepeated).map set

namespace RecordFormat

variable {format : RecordFormat ρ}

theorem orMismatch_gives (outcome : Except Mismatch α) (rest : List Char) :
    Gives (orMismatch rest outcome) outcome.toOption rest := by
  cases outcome with
  | error reason => exact .of_error rfl
  | ok x => exact .of_eq rfl

/-! ## Object form -/

theorem readMember_gives {key : String}
    (hslots : ∀ slot ∈ format.slots, slot.AgreesAt depth)
    (h : readEntry depth cs = .ok ((key, v), rest)) (hv : v.Unrepeated) (draft : Draft ρ) :
    Gives (format.readMember draft cs) (format.addMember draft (key, v.canonical)) rest := by
  obtain ⟨tail, mid, next, rfl, hkey, hmark, hvalue⟩ := readEntry_eq_ok.1 h
  rw [readMember, readKey, hkey, Reading.andThen_ok, addMember]
  cases hslot : format.slot? key with
  | none =>
    simp only [hmark, Reading.andThen_ok, skipValue_of_readValue hvalue]
    exact .of_eq rfl
  | some slot =>
    have hagrees := hslots slot (format.slot?_eq_some hslot).1 hvalue hv
    simp only
    split
    · exact .of_error rfl
    · rw [hmark, Reading.andThen_ok]
      exact hagrees.map _

theorem ofText_gives_of_members {members : List (String × Value)} {tail : List Char}
    (hslots : ∀ slot ∈ format.slots, slot.AgreesAt depth) (hcs : skipGaps cs = '{' :: tail)
    (h : Items '}' (fun cs member rest ↦ readEntry depth cs = .ok (member, rest)) true tail members
      rest)
    (hunrepeated : ∀ member ∈ members, member.2.Unrepeated) :
    Gives (format.ofText cs)
      (format.ofValue (.object (Value.canonicalMembers members))).toOption rest := by
  have hfold := h.foldAll_gives (shrinks_entry depth)
    (fun member hmem cs rest hentry draft ↦
      readMember_gives hslots hentry (hunrepeated member hmem) draft) ⟨format.blank, []⟩
  rw [toOption_ofValue_object_eq_bind, Value.canonicalMembers_eq_map, List.foldlM_map]
  simp only [ofText, hcs]
  exact hfold.andThen fun draft _ ↦ orMismatch_gives _ _

/-! ## Array form -/

/-- One more element in a record in array form. -/
def fill (state : Filling ρ) (v : Value) : Option (Filling ρ) :=
  match state.unfilled with
  | [] => none
  | slot :: slots =>
    (slot.ofValue v).toOption.map fun update ↦ ⟨update state.record, state.count + 1, slots⟩

theorem readElement_gives {state : Filling ρ}
    (hslots : ∀ slot ∈ state.unfilled, slot.AgreesAt depth)
    (h : readValue depth cs = .ok (v, rest)) (hv : v.Unrepeated) :
    Gives (readElement state cs) (fill state v.canonical) rest := by
  obtain ⟨record, count, slots⟩ := state
  cases slots with
  | nil => exact .of_error rfl
  | cons slot slots => exact (hslots slot (.head _) h hv).map _

theorem unfilled_subset_of_fill {state state' : Filling ρ} (h : fill state v = some state') :
    state'.unfilled ⊆ state.unfilled := by
  rw [fill] at h
  split at h
  · exact absurd h nofun
  · next slot slots hunfilled =>
    obtain ⟨update, -, rfl⟩ := Option.map_eq_some_iff.1 h
    rw [hunfilled]
    exact List.subset_cons_self slot slots

theorem toOption_readElements (length : Nat) (record : ρ) (count : Nat) (slots : List (Slot ρ))
    (vs : List Value) :
    (format.readElements length record count slots vs).toOption =
      (vs.foldlM fill ⟨record, count, slots⟩).bind fun state ↦
        (format.finishArray state.record state.count state.unfilled).toOption := by
  induction vs generalizing record count slots with
  | nil => cases slots <;> rfl
  | cons v vs ih =>
    rw [List.foldlM_cons]
    cases slots with
    | nil => rfl
    | cons slot slots =>
      rw [readElements]
      cases hv : slot.ofValue v with
      | error reason => simp [fill, hv]
      | ok update => simp [fill, hv, ih]

theorem ofText_gives_of_items {items : List Value} {tail : List Char}
    (hslots : ∀ slot ∈ format.slots, slot.AgreesAt depth) (hcs : skipGaps cs = '[' :: tail)
    (h : Items ']' (fun cs v rest ↦ readValue depth cs = .ok (v, rest)) true tail items rest)
    (hunrepeated : ∀ v ∈ items, v.Unrepeated) :
    Gives (format.ofText cs) (format.ofValue (.array (items.map Value.canonical))).toOption
      rest := by
  have hstep : ∀ v ∈ items, ∀ cs rest, readValue depth cs = .ok (v, rest) →
      ∀ state : Filling ρ, state.unfilled ⊆ format.slots →
        Gives (readElement state cs) (fill state v.canonical) rest :=
    fun v hmem cs rest hv state hstate ↦
      readElement_gives (fun slot hslot ↦ hslots slot (hstate hslot)) hv (hunrepeated v hmem)
  have hkeep : ∀ (state : Filling ρ) (v : Value) state', state.unfilled ⊆ format.slots →
      fill state v.canonical = some state' → state'.unfilled ⊆ format.slots :=
    fun state v state' hstate hfill ↦ List.Subset.trans (unfilled_subset_of_fill hfill) hstate
  have hfold := h.foldAll_gives_of_holds (shrinks_value depth) hstep hkeep
    (s := ⟨format.blank, 0, format.slots⟩) (List.Subset.refl _)
  rw [ofValue, toOption_readElements, List.foldlM_map]
  simp only [ofText, hcs]
  exact hfold.andThen fun state _ ↦ orMismatch_gives _ _

/-! ## The format -/

/-- **Records** are read alike from texts and from values. -/
theorem agreesAt_toFormat (hindependent : format.Independent)
    (hslots : ∀ slot ∈ format.slots, ∀ depth, slot.AgreesAt depth) (depth : Nat) :
    format.toFormat.AgreesAt depth := by
  intro cs v rest hv hunrepeated
  have hshape := readValue_eq_ok.1 hv
  generalize hcs : skipGaps cs = text at hshape
  simp only [toFormat]
  cases hshape with
  | null | yes | no | text => simp only [ofText, hcs]; exact .of_refuse ..
  | number hc =>
    have hbracket := ne_of_startsNumber hc (rfl : startsNumber '[' = false)
    have hbrace := ne_of_startsNumber hc (rfl : startsNumber '{' = false)
    simp only [ofText, hcs]
    split
    · next heq => exact absurd (List.cons.inj heq).1 hbrace
    · next heq => exact absurd (List.cons.inj heq).1 hbracket
    · exact .of_refuse ..
  | array hitems =>
    rw [Value.canonical, Value.canonicalItems_eq_map]
    exact ofText_gives_of_items (fun slot hslot ↦ hslots slot hslot _) hcs hitems
      (Value.unrepeated_array.1 hunrepeated)
  | object hmembers =>
    obtain ⟨hnodup, hunrepeated⟩ := Value.unrepeated_object.1 hunrepeated
    have hperm := Value.ofList_canonicalMembers_perm hnodup
    have hkeys := (hperm.map Prod.fst).nodup_iff
    rw [Value.canonicalMembers_keys] at hkeys
    rw [Value.canonical, toOption_ofValue_of_perm format hindependent hperm (hkeys.2 hnodup)]
    exact ofText_gives_of_members (fun slot hslot ↦ hslots slot hslot _) hcs hmembers hunrepeated

end RecordFormat

end MonitorCore.Json

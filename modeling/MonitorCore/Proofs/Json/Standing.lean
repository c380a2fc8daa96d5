import MonitorCore.Proofs.Json.Enumeration
import MonitorCore.Proofs.Json.RecordText

/-!
# Texts and values as they stand

A text is read like its value, with the members of every object in the order of the text and with
repeated keys left in. Nothing is asked of the text but that it has a value: a key that a record
knows is refused when it comes again, in the text and in the value, and one that it does not know is
passed over in both.

Canonical forms differ from values only between brackets. So a format that agrees with canonical
forms has to be looked at anew on arrays and objects alone (`Format.AgreesAt.readsAt`), and there
only lists, records and enumerations have anything to read.
-/

namespace MonitorCore.Json

variable {ρ α : Type} {depth : Nat} {cs rest : List Char} {v : Value}

/-- Of a text that holds a value up to `depth`, the format reads the same as of the value as it
stands. -/
def Format.ReadsAt (depth : Nat) (format : Format α) : Prop :=
  ∀ ⦃cs v rest⦄, readValue depth cs = .ok (v, rest) →
    Gives (format.ofText cs) (format.ofValue v).toOption rest

/-- The values between the square brackets of an array. -/
abbrev Elements (depth : Nat) : List Char → List Value → List Char → Prop :=
  Items ']' (fun cs v rest ↦ readValue depth cs = .ok (v, rest)) true

/-- The members between the braces of an object. -/
abbrev Entries (depth : Nat) : List Char → List (String × Value) → List Char → Prop :=
  Items '}' (fun cs member rest ↦ readEntry depth cs = .ok (member, rest)) true

namespace Format

variable {format : Format α}

/-- What holds of canonical forms holds of values as they stand, if it does between brackets. -/
theorem AgreesAt.readsAt (h : format.AgreesAt depth)
    (harray : ∀ {inner cs tail items rest}, skipGaps cs = '[' :: tail →
      Elements inner tail items rest →
      Gives (format.ofText cs) (format.ofValue (.array items)).toOption rest)
    (hobject : ∀ {inner cs tail members rest}, skipGaps cs = '{' :: tail →
      Entries inner tail members rest →
      Gives (format.ofText cs) (format.ofValue (.object members)).toOption rest) :
    format.ReadsAt depth := by
  intro cs v rest hv
  have hshape := readValue_eq_ok.1 hv
  generalize hcs : skipGaps cs = text at hshape
  cases hshape with
  | null | yes | no | number | text => exact h hv trivial
  | array hitems => exact harray hcs hitems
  | object hmembers => exact hobject hcs hmembers

theorem readsAt_id (depth : Nat) : id.ReadsAt depth := by
  refine (agreesAt_id depth).readsAt (fun hcs _ ↦ ?_) fun hcs _ ↦ ?_
  · simp only [id, hcs]
    rw [if_neg (by decide)]
    exact .of_refuse ..
  · simp only [id, hcs]
    rw [if_neg (by decide)]
    exact .of_refuse ..

theorem readsAt_text (depth : Nat) : text.ReadsAt depth := by
  refine (agreesAt_text depth).readsAt (fun hcs _ ↦ ?_) fun hcs _ ↦ ?_
  · simp only [text, hcs]
    exact .of_refuse ..
  · simp only [text, hcs]
    exact .of_refuse ..

theorem readsAt_flag (depth : Nat) : flag.ReadsAt depth := by
  refine (agreesAt_flag depth).readsAt (fun hcs _ ↦ ?_) fun hcs _ ↦ ?_
  · simp only [flag, hcs]
    rw [if_neg (by decide), if_neg (by decide)]
    exact .of_refuse ..
  · simp only [flag, hcs]
    rw [if_neg (by decide), if_neg (by decide)]
    exact .of_refuse ..

theorem ReadsAt.optional (h : ∀ depth, format.ReadsAt depth) (hagrees : format.AgreesAt depth) :
    (optional format).ReadsAt depth := by
  have hshape : ∀ inner cs {v rest}, Shape inner (skipGaps cs) v rest →
      Gives (format.ofText (skipGaps cs)) (format.ofValue v).toOption rest :=
    fun inner cs _ _ hshape ↦ h inner (readValue_eq_ok.2 (by rwa [skipGaps_skipGaps]))
  refine hagrees.optional.readsAt (fun {inner cs _ _ _} hcs hitems ↦ ?_)
    fun {inner cs _ _ _} hcs hmembers ↦ ?_
  · have hinner := hshape (inner + 1) cs (by rw [hcs]; exact .array hitems)
    rw [ofValue_optional_of_ne_null format (by simp), toOption_map]
    simp only [Format.optional, hcs] at hinner ⊢
    exact hinner.map some
  · have hinner := hshape (inner + 1) cs (by rw [hcs]; exact .object hmembers)
    rw [ofValue_optional_of_ne_null format (by simp), toOption_map]
    simp only [Format.optional, hcs] at hinner ⊢
    exact hinner.map some

/-! ## Lists -/

theorem toOption_listOfValues_cons (format : Format α) (v : Value) (vs : List Value) :
    (listOfValues format (v :: vs)).toOption =
      (format.ofValue v).toOption.bind fun x ↦ (listOfValues format vs).toOption.map (x :: ·) := by
  rw [listOfValues]
  cases format.ofValue v with
  | error reason => rfl
  | ok x => exact toOption_map ..

theorem foldlM_push (format : Format α) (vs : List Value) (done : Array α) :
    vs.foldlM (fun items v ↦ (format.ofValue v).toOption.map items.push) done =
      (listOfValues format vs).toOption.map fun xs ↦ done ++ xs.toArray := by
  induction vs generalizing done with
  | nil => simp [listOfValues, Except.toOption]
  | cons v vs ih =>
    rw [List.foldlM_cons, toOption_listOfValues_cons]
    cases (format.ofValue v).toOption with
    | none => rfl
    | some x => simp [ih, Function.comp_def]

theorem ReadsAt.list (h : ∀ depth, format.ReadsAt depth) (hagrees : ∀ depth, format.AgreesAt depth)
    (depth : Nat) : (list format).ReadsAt depth := by
  refine (AgreesAt.list hagrees depth).readsAt (fun hcs hitems ↦ ?_) fun hcs _ ↦ ?_
  · have hfold := hitems.foldAll_gives (shrinks_value _)
      (fun v _ cs rest hv (items : Array α) ↦ (h _ hv).map items.push) #[]
    rw [foldlM_push] at hfold
    simp only [Format.list, hcs]
    simpa [Function.comp_def] using hfold.map Array.toList
  · simp only [Format.list, hcs]
    exact .of_refuse ..

end Format

/-! ## Enumerations -/

namespace Variants

variable (variants : Variants α)

theorem toOption_ofValue_members (members : List (String × Value)) :
    (variants.ofValue (.object members)).toOption = variants.ofMembers? members := by
  match members with
  | [] => rfl
  | [(name, content)] =>
    rw [ofValue, ofMembers?]
    cases variants.ofName name with
    | error reason => rfl
    | ok x => cases content <;> rfl
  | (name, content) :: second :: more =>
    rw [ofMembers?, if_neg (List.cons_ne_nil second more)]
    cases (variants.ofName name).toOption <;> cases unit? content <;> rfl

theorem readsAt_format (depth : Nat) : variants.format.ReadsAt depth := by
  refine (variants.agreesAt_format depth).readsAt (fun hcs _ ↦ ?_) fun hcs hmembers ↦ ?_
  · simp only [format, ofText, hcs]
    exact .of_error rfl
  · have htext := variants.ofText_gives_of_members hcs hmembers
    rwa [← variants.toOption_ofValue_members] at htext

end Variants

/-! ## Records -/

/-- Of a text that holds a value up to `depth`, a field reads the same as of the value as it stands.
-/
def Slot.ReadsAt (depth : Nat) (slot : Slot ρ) : Prop :=
  ∀ ⦃cs v rest⦄, readValue depth cs = .ok (v, rest) →
    Gives (slot.ofText cs) (slot.ofValue v).toOption rest

theorem Format.ReadsAt.slot {format : Format α} (h : format.ReadsAt depth) (key : String)
    (required : Bool) (get : ρ → α) (set : α → ρ → ρ) :
    (Slot.of key required format get set).ReadsAt depth := by
  intro cs v rest hv
  simp only [Slot.of, toOption_map]
  exact (h hv).map set

namespace RecordFormat

variable {format : RecordFormat ρ}

theorem readMember_gives_standing {key : String}
    (hslots : ∀ slot ∈ format.slots, slot.ReadsAt depth)
    (h : readEntry depth cs = .ok ((key, v), rest)) (draft : Draft ρ) :
    Gives (format.readMember draft cs) (format.addMember draft (key, v)) rest := by
  obtain ⟨tail, mid, next, rfl, hkey, hmark, hvalue⟩ := readEntry_eq_ok.1 h
  rw [readMember, readKey, hkey, Reading.andThen_ok, addMember]
  cases hslot : format.slot? key with
  | none =>
    simp only [hmark, Reading.andThen_ok, skipValue_of_readValue hvalue]
    exact .of_eq rfl
  | some slot =>
    have hreads := hslots slot (format.slot?_eq_some hslot).1 hvalue
    simp only
    split
    · exact .of_error rfl
    · rw [hmark, Reading.andThen_ok]
      exact hreads.map _

theorem readElement_gives_standing {state : Filling ρ}
    (hslots : ∀ slot ∈ state.unfilled, slot.ReadsAt depth)
    (h : readValue depth cs = .ok (v, rest)) :
    Gives (readElement state cs) (fill state v) rest := by
  obtain ⟨record, count, slots⟩ := state
  cases slots with
  | nil => exact .of_error rfl
  | cons slot slots => exact (hslots slot (.head _) h).map _

/-- **Records** are read from texts as from values as they stand. -/
theorem readsAt_toFormat (hagrees : format.toFormat.AgreesAt depth)
    (hslots : ∀ slot ∈ format.slots, ∀ depth, slot.ReadsAt depth) :
    format.toFormat.ReadsAt depth := by
  refine hagrees.readsAt
    (fun {inner _ _ items _} hcs hitems ↦ ?_) fun {inner _ _ _ _} hcs hmembers ↦ ?_
  · have hstep : ∀ v ∈ items, ∀ cs rest, readValue inner cs = .ok (v, rest) →
        ∀ state : Filling ρ, state.unfilled ⊆ format.slots →
          Gives (readElement state cs) (fill state v) rest :=
      fun v _ cs rest hv state hstate ↦
        readElement_gives_standing (fun slot hslot ↦ hslots slot (hstate hslot) _) hv
    have hkeep : ∀ (state : Filling ρ) (v : Value) state', state.unfilled ⊆ format.slots →
        fill state v = some state' → state'.unfilled ⊆ format.slots :=
      fun state v state' hstate hfill ↦ List.Subset.trans (unfilled_subset_of_fill hfill) hstate
    have hfold := hitems.foldAll_gives_of_holds (shrinks_value inner) hstep hkeep
      (s := ⟨format.blank, 0, format.slots⟩) (List.Subset.refl _)
    simp only [toFormat]
    rw [ofValue, toOption_readElements]
    simp only [ofText, hcs]
    exact hfold.andThen fun state _ ↦ orMismatch_gives _ _
  · have hfold := hmembers.foldAll_gives (shrinks_entry inner)
      (fun member _ cs rest hentry draft ↦
        readMember_gives_standing (fun slot hslot ↦ hslots slot hslot _) hentry draft)
      ⟨format.blank, []⟩
    simp only [toFormat]
    rw [toOption_ofValue_object_eq_bind]
    simp only [ofText, hcs]
    exact hfold.andThen fun draft _ ↦ orMismatch_gives _ _

end RecordFormat

end MonitorCore.Json

import MonitorCore.Proofs.Json.Decoding
import MonitorCore.Proofs.Json.Printed

/-!
# What is printed reads back

Each format writes values that print and read back (`Value.Fits`), and reads from the canonical form
of such a value what was written. Together with the agreement of text and value, what a format
prints is read back in both ways: directly from the text, and from the value that the text is parsed
to.
-/

namespace MonitorCore

namespace Json

variable {ρ α β : Type} {depth : Nat}

/-- A format reads back what it writes, and what it writes fits in `depth` levels. -/
structure Format.RestoresAt (depth : Nat) (format : Format α) : Prop where
  fits : ∀ x, (format.toJson x).Fits depth
  restores : ∀ x, format.ofValue (format.toJson x).canonical = .ok x

namespace Format

variable {format : Format α}

theorem restoresAt_id (depth : Nat) : id.RestoresAt depth where
  fits i := by
    have hlt : i.toNat < Decimal.wordLimit := i.toNat_lt
    simp only [id, Value.ofNat, Value.Fits]
    omega
  restores i := by
    have hi : (0 : Int) ≤ (i.toNat : Int) := Int.natCast_nonneg _
    simp [id, Value.ofNat, Value.canonical, idOf, hi]

theorem restoresAt_text (depth : Nat) : text.RestoresAt depth where
  fits s := by simp [text, Value.Fits]
  restores s := rfl

theorem restoresAt_flag (depth : Nat) : flag.RestoresAt depth where
  fits b := by simp [flag, Value.Fits]
  restores b := rfl

theorem RestoresAt.along (h : format.RestoresAt depth) {forth : α → β} {back : β → α}
    (hforth : ∀ y, forth (back y) = y) : (format.along forth back).RestoresAt depth where
  fits y := h.fits (back y)
  restores y := by simp [Format.along, h.restores, Except.map, hforth]

/-- An optional value is told from none, since it is not written as null. -/
theorem RestoresAt.optional (h : format.RestoresAt depth) (hnull : ∀ x, format.toJson x ≠ .null) :
    (optional format).RestoresAt depth where
  fits
    | none => by simp [Format.optional, Value.Fits]
    | some x => h.fits x
  restores
    | none => rfl
    | some x => by
      have hne : (format.toJson x).canonical ≠ .null :=
        fun heq ↦ hnull x (Value.canonical_eq_null.1 heq)
      have hx := ofValue_optional_of_ne_null format hne
      rw [h.restores, Except.map] at hx
      exact hx

theorem listOfValues_eq_ok (h : ∀ x, format.ofValue (format.toJson x).canonical = .ok x)
    (xs : List α) : listOfValues format ((xs.map format.toJson).map Value.canonical) = .ok xs := by
  induction xs with
  | nil => rfl
  | cons x xs ih => simp only [List.map_cons, listOfValues, h, ih, Except.map]

theorem RestoresAt.list (h : format.RestoresAt depth) : (list format).RestoresAt (depth + 1) where
  fits xs := by
    refine fun v hv ↦ ?_
    obtain ⟨x, -, rfl⟩ := List.mem_map.1 hv
    exact h.fits x
  restores xs := by
    simp only [Format.list, Value.canonical, Value.canonicalItems_eq_map]
    exact listOfValues_eq_ok h.restores xs

end Format

/-! ## Enumerations -/

/-- No two values of an enumeration share a name, and all are listed. -/
def Variants.Named (variants : Variants α) : Prop :=
  ∀ x, variants.ofName? (variants.name x) = some x

theorem Variants.Named.restoresAt {variants : Variants α} (h : variants.Named) (depth : Nat) :
    variants.format.RestoresAt depth where
  fits x := by simp [Variants.format, Value.Fits]
  restores x := by
    have hname : variants.ofName (variants.name x) = .ok x := by rw [Variants.ofName, h x]
    exact hname

/-- Two enumerations are told apart if no name of the second is one of the first. -/
theorem restoresAt_eitherVariant {first : Variants α} {second : Variants β} (name : String)
    (hfirst : first.Named) (hsecond : second.Named)
    (happart : ∀ y, first.ofName? (second.name y) = none) (depth : Nat) :
    (eitherVariant name first second).RestoresAt depth where
  fits
    | .inl x => by simp [eitherVariant, Value.Fits]
    | .inr y => by simp [eitherVariant, Value.Fits]
  restores
    | .inl x => by
      have hx : first.named? (.text (first.name x)) = some x := hfirst x
      simp only [eitherVariant, Value.canonical, eitherVariant.choose, hx]
    | .inr y => by
      have hx : first.named? (.text (second.name y)) = none := happart y
      have hy : second.named? (.text (second.name y)) = some y := hsecond y
      simp only [eitherVariant, Value.canonical, eitherVariant.choose, hx, hy]

/-! ## Records -/

theorem Format.RestoresAt.slot_restores {format : Format α} (h : format.RestoresAt depth)
    (key : String) (required : Bool) (get : ρ → α) (set : α → ρ → ρ) (record : ρ) :
    (Slot.of key required format get set).ofValue
      ((Slot.of key required format get set).toJson record).canonical = .ok (set (get record)) := by
  simp only [Slot.of, h.restores, Except.map]

namespace RecordFormat

variable {format : RecordFormat ρ}

/-- The blank record after all fields of `record` were written and read. -/
def rebuild (format : RecordFormat ρ) (record : ρ) : Option ρ :=
  format.slots.foldl (fun rebuilt slot ↦ rebuilt.bind fun rebuilt ↦
    (slot.ofValue (slot.toJson record).canonical).toOption.map fun update ↦ update rebuilt)
    (some format.blank)

theorem Independent.slot?_key (h : format.Independent) {slot : Slot ρ}
    (hmem : slot ∈ format.slots) :
    format.slot? slot.key = some slot := by
  obtain ⟨found, hfound⟩ := Option.isSome_iff_exists.1 (format.isSome_slot?_of_mem hmem)
  obtain ⟨hmem', hkey⟩ := format.slot?_eq_some hfound
  by_cases heq : found = slot
  · rwa [heq] at hfound
  · exact absurd hkey (h.forall hmem' hmem heq).keys

theorem Independent.nodup_keys (h : format.Independent) (record : ρ) :
    ((format.members record).map Prod.fst).Nodup := by
  rw [members, List.map_map]
  exact List.Pairwise.map _ (fun _ _ hapart ↦ hapart.keys) h

theorem foldl_enter_members (h : format.Independent) (record : ρ) :
    (Value.canonicalMembers (format.members record)).foldl format.enter (some format.blank) =
      format.rebuild record := by
  rw [Value.canonicalMembers_eq_map, members, List.map_map, List.foldl_map, rebuild]
  refine List.foldl_ext _ _ _ fun rebuilt slot hmem ↦ ?_
  simp only [enter, Function.comp_apply, h.slot?_key hmem]

/-- **A record** reads back if its fields do and nothing else is in it. -/
theorem restoresAt_toFormat (hindependent : format.Independent)
    (hfits : ∀ slot ∈ format.slots, ∀ record, (slot.toJson record).Fits depth)
    (hrebuild : ∀ record, format.rebuild record = some record) :
    format.toFormat.RestoresAt (depth + 1) where
  fits record := by
    refine ⟨hindependent.nodup_keys record, fun member hmember ↦ ?_⟩
    obtain ⟨slot, hslot, rfl⟩ := List.mem_map.1 hmember
    exact hfits slot hslot record
  restores record := by
    have hnodup := hindependent.nodup_keys record
    have hperm := Value.ofList_canonicalMembers_perm hnodup
    have hkeys := Value.canonicalMembers_keys (format.members record)
    have hcomplete :
        format.complete ((Value.canonicalMembers (format.members record)).map Prod.fst) := by
      refine List.all_eq_true.2 fun slot hslot ↦ ?_
      have hkey : slot.key ∈ (format.members record).map Prod.fst :=
        List.mem_map.2 ⟨_, List.mem_map_of_mem hslot, rfl⟩
      simp [hkeys, hkey]
    rw [← toOption_eq_some]
    simp only [toFormat, Value.canonical]
    rw [toOption_ofValue_of_perm format hindependent hperm
      ((hperm.map Prod.fst).nodup_iff.2 (hkeys ▸ hnodup)),
      toOption_ofValue_object format (hkeys ▸ hnodup), if_pos hcomplete,
      foldl_enter_members hindependent, hrebuild]

end RecordFormat

/-! ## Both ways of reading -/

/-- What is printed for a value reads back as this value: directly, and from the value of the text.
-/
def Format.Restores (format : Format α) (x : α) : Prop :=
  format.parse (format.print x) = .ok x ∧
    (Json.parse (format.print x)).map format.ofValue = some (.ok x)

theorem Format.RestoresAt.restores_of_agreesAt {format : Format α}
    (h : format.RestoresAt depthLimit)
    (hagrees : format.AgreesAt depthLimit) (x : α) : format.Restores x := by
  have htext := readText_compact (h.fits x)
  refine ⟨(hagrees.parse_eq_ok_iff htext (h.fits x).unrepeated x).2 (h.restores x), ?_⟩
  rw [Format.print, parse_compact (h.fits x), Option.map_some, h.restores]

end Json

open Json Format

/-! ## Each format restores -/

theorem Temporality.named : variants.Named := by
  intro temporality
  cases temporality <;> rfl

theorem SimpleKind.named : variants.Named := by
  intro kind
  cases kind <;> rfl

theorem ValidationKind.named : variants.Named := by
  intro kind
  cases kind <;> rfl

theorem ValidationKind.ofName?_name (kind : ValidationKind) :
    SimpleKind.variants.ofName? (variants.name kind) = none := by
  cases kind <;> rfl

theorem Temporality.restoresAt_format (depth : Nat) : format.RestoresAt depth :=
  named.restoresAt depth

theorem SimpleKind.restoresAt_format (depth : Nat) : format.RestoresAt depth :=
  named.restoresAt depth

theorem ValidationKind.restoresAt_format (depth : Nat) : format.RestoresAt depth :=
  named.restoresAt depth

theorem FailureKind.restoresAt_format (depth : Nat) : format.RestoresAt depth :=
  (restoresAt_eitherVariant _ SimpleKind.named ValidationKind.named ValidationKind.ofName?_name
    depth).along fun kind ↦ by cases kind <;> rfl

theorem ErrorRecord.restoresAt_format (depth : Nat) : format.RestoresAt (depth + 1) := by
  have htext := restoresAt_text depth
  refine RecordFormat.restoresAt_toFormat independent ?_ fun record ↦ ?_
  · simp [recordFormat, Slot.of, htext.fits]
  · simp [RecordFormat.rebuild, recordFormat, htext.slot_restores]

theorem DataSet.restoresAt_format (depth : Nat) : format.RestoresAt (depth + 1) := by
  have hid := restoresAt_id depth
  refine RecordFormat.restoresAt_toFormat independent ?_ fun record ↦ ?_
  · simp [recordFormat, Slot.of, hid.fits]
  · simp [RecordFormat.rebuild, recordFormat, hid.slot_restores]

theorem DataSeries.restoresAt_format (depth : Nat) : format.RestoresAt (depth + 3) := by
  have hid := restoresAt_id (depth + 2)
  have htext := restoresAt_text (depth + 2)
  have htemporality := Temporality.restoresAt_format (depth + 2)
  have hdataSets := (DataSet.restoresAt_format depth).list
  refine RecordFormat.restoresAt_toFormat independent ?_ fun record ↦ ?_
  · simp [recordFormat, Slot.of, hid.fits, htext.fits, htemporality.fits, hdataSets.fits]
  · simp [RecordFormat.rebuild, recordFormat, hid.slot_restores, htext.slot_restores,
      htemporality.slot_restores, hdataSets.slot_restores]

theorem Analysis.restoresAt_format (depth : Nat) : format.RestoresAt (depth + 1) := by
  have hid := restoresAt_id depth
  have htext := restoresAt_text depth
  refine RecordFormat.restoresAt_toFormat independent ?_ fun record ↦ ?_
  · simp [recordFormat, Slot.of, hid.fits, htext.fits]
  · simp [RecordFormat.rebuild, recordFormat, hid.slot_restores, htext.slot_restores]

theorem LoggingConfig.restoresAt_format (depth : Nat) : format.RestoresAt (depth + 1) := by
  have htext := restoresAt_text depth
  have hflag := restoresAt_flag depth
  have hlogDir := htext.optional nofun
  refine RecordFormat.restoresAt_toFormat independent ?_ fun record ↦ ?_
  · simp [recordFormat, Slot.of, htext.fits, hflag.fits, hlogDir.fits]
  · simp [RecordFormat.rebuild, recordFormat, htext.slot_restores, hflag.slot_restores,
      hlogDir.slot_restores]

theorem CoreConfig.restoresAt_format (depth : Nat) : format.RestoresAt (depth + 2) := by
  have hlogging := LoggingConfig.restoresAt_format depth
  refine RecordFormat.restoresAt_toFormat independent ?_ fun record ↦ ?_
  · simp [recordFormat, Slot.of, hlogging.fits]
  · simp [RecordFormat.rebuild, recordFormat, hlogging.slot_restores]

/-- **What is printed reads back.** For each value of each type, its compact text is read as this
value, both directly and by way of the value of the text, whose objects have their members in key
order. -/
theorem restores_all :
    (∀ record, ErrorRecord.format.Restores record) ∧
    (∀ dataSet, DataSet.format.Restores dataSet) ∧
    (∀ series, DataSeries.format.Restores series) ∧
    (∀ analysis, Analysis.format.Restores analysis) ∧
    (∀ temporality, Temporality.format.Restores temporality) ∧
    (∀ kind, SimpleKind.format.Restores kind) ∧
    (∀ kind, ValidationKind.format.Restores kind) ∧
    (∀ kind, FailureKind.format.Restores kind) ∧
    (∀ config, LoggingConfig.format.Restores config) ∧
    ∀ config, CoreConfig.format.Restores config :=
  ⟨(ErrorRecord.restoresAt_format _).restores_of_agreesAt (ErrorRecord.agreesAt_format _),
    (DataSet.restoresAt_format _).restores_of_agreesAt (DataSet.agreesAt_format _),
    (DataSeries.restoresAt_format _).restores_of_agreesAt (DataSeries.agreesAt_format _),
    (Analysis.restoresAt_format _).restores_of_agreesAt (Analysis.agreesAt_format _),
    (Temporality.restoresAt_format _).restores_of_agreesAt (Temporality.agreesAt_format _),
    (SimpleKind.restoresAt_format _).restores_of_agreesAt (SimpleKind.agreesAt_format _),
    (ValidationKind.restoresAt_format _).restores_of_agreesAt (ValidationKind.agreesAt_format _),
    (FailureKind.restoresAt_format _).restores_of_agreesAt FailureKind.agreesAt_format,
    (LoggingConfig.restoresAt_format _).restores_of_agreesAt (LoggingConfig.agreesAt_format _),
    (CoreConfig.restoresAt_format _).restores_of_agreesAt (CoreConfig.agreesAt_format _)⟩

end MonitorCore

import Mathlib.Logic.Relation
import MonitorCore.Proofs.Json.ArrayForm
import MonitorCore.Proofs.Json.Standing

/-!
# Documents with records in either form

Within a document each record may stand in its own form, as an object or as an array. Where records
stand is told by what is wanted there (`Outline`); `Reforms` puts one of them, at any depth, from
the array into the object. Whoever reads a document by its outline sees no difference between the
two (`Format.Follows`), and so none between documents that are joined by such steps in either
direction.

An element of a record in array form is reached by way of the object form: the array is an object,
in which the element is a member, and which is an array again. Only an array with too many elements
is no object, but it is not read at all.
-/

namespace MonitorCore.Json

variable {ρ α : Type}

/-- What is wanted at a place of a document, as far as records are concerned. -/
inductive Outline where
  /-- Anything without records in it. -/
  | plain
  /-- A list. -/
  | list (item : Outline)
  /-- A record with these fields in declaration order. -/
  | record (fields : List (String × Outline))

/-- The document `w` is `v` with one record put from the array form into the object form. -/
inductive Outline.Reforms : Outline → Value → Value → Prop
  | turn {fields items members} : items.length ≤ fields.length →
      members.Perm ((fields.map Prod.fst).zip items) →
      Reforms (.record fields) (.array items) (.object members)
  | item {outline before after v w} : Reforms outline v w →
      Reforms (.list outline) (.array (before ++ v :: after)) (.array (before ++ w :: after))
  | element {outline key front back before after v w} :
      List.length front = List.length before → Reforms outline v w →
      Reforms (.record (front ++ (key, outline) :: back)) (.array (before ++ v :: after))
        (.array (before ++ w :: after))
  | member {fields outline key before after v w} : (key, outline) ∈ fields →
      Reforms outline v w →
      Reforms (.record fields) (.object (before ++ (key, v) :: after))
        (.object (before ++ (key, w) :: after))

/-- The documents differ in nothing but the forms of their records. -/
def Outline.SameBut (outline : Outline) : Value → Value → Prop := Relation.EqvGen outline.Reforms

/-! ## Formats that do not tell the forms apart -/

/-- The format reads the same whichever form the records within have. -/
def Format.Follows (outline : Outline) (format : Format α) : Prop :=
  ∀ ⦃v w⦄, outline.Reforms v w → (format.ofValue v).toOption = (format.ofValue w).toOption

/-- The slot reads the same whichever form the records within have. -/
def Slot.Follows (outline : Outline) (slot : Slot ρ) : Prop :=
  ∀ ⦃v w⦄, outline.Reforms v w → (slot.ofValue v).toOption = (slot.ofValue w).toOption

theorem Format.follows_plain (format : Format α) : format.Follows .plain := nofun

theorem Format.Follows.slot {outline : Outline} {format : Format α} (h : format.Follows outline)
    (key : String) (required : Bool) (get : ρ → α) (set : α → ρ → ρ) :
    (Slot.of key required format get set).Follows outline := by
  intro v w hvw
  simp only [Slot.of, toOption_map, h hvw]

theorem Format.Follows.list {outline : Outline} {format : Format α} (h : format.Follows outline) :
    (Format.list format).Follows (.list outline) := by
  intro _ _ hreforms
  cases hreforms with
  | @item _ before after v w hvw =>
    simp only [Format.list]
    induction before with
    | nil => rw [List.nil_append, List.nil_append, toOption_listOfValues_cons, h hvw,
        ← toOption_listOfValues_cons]
    | cons u before ih => rw [List.cons_append, List.cons_append, toOption_listOfValues_cons, ih,
        ← toOption_listOfValues_cons]

/-! ## Records -/

/-- The fields are those of the record, and each is read by a slot that follows its outline. -/
structure RecordFormat.Outlined (format : RecordFormat ρ) (fields : List (String × Outline)) :
    Prop where
  keys : fields.map Prod.fst = format.keys
  slots : ∀ field ∈ fields, ∃ slot, format.slot? field.1 = some slot ∧ slot.Follows field.2

namespace RecordFormat

variable {format : RecordFormat ρ} {fields : List (String × Outline)} {outline : Outline}
  {key : String} {v w : Value}

theorem Outlined.toOption_member (h : format.Outlined fields) (hfield : (key, outline) ∈ fields)
    (hvw : outline.Reforms v w) (before after : List (String × Value)) :
    (format.ofValue (.object (before ++ (key, v) :: after))).toOption =
      (format.ofValue (.object (before ++ (key, w) :: after))).toOption := by
  obtain ⟨slot, hslot, hfollows⟩ := h.slots _ hfield
  have hmember : ∀ draft, format.addMember draft (key, v) = format.addMember draft (key, w) := by
    intro draft
    simp only [addMember, hslot, hfollows hvw]
  simp only [toOption_ofValue_object_eq_bind, List.foldlM_append, List.foldlM_cons, hmember]

theorem Outlined.toOption_element {front back : List (String × Outline)}
    (h : format.Outlined (front ++ (key, outline) :: back)) (hindependent : format.Independent)
    {before : List Value} (hlength : front.length = before.length) (hvw : outline.Reforms v w)
    (after : List Value) :
    (format.ofValue (.array (before ++ v :: after))).toOption =
      (format.ofValue (.array (before ++ w :: after))).toOption := by
  have hzip : ∀ u : Value, format.keys.zip (before ++ u :: after) =
      (front.map Prod.fst).zip before ++ (key, u) :: (back.map Prod.fst).zip after := by
    intro u
    rw [← h.keys, List.map_append, List.map_cons, List.zip_append (by simpa using hlength),
      List.zip_cons_cons]
  have hfield : (key, outline) ∈ front ++ (key, outline) :: back := by simp
  simp only [toOption_ofValue_array hindependent, hzip, List.length_append, List.length_cons,
    h.toOption_member hfield hvw]

/-- **Records** are read by their outline. -/
theorem Outlined.follows (h : format.Outlined fields) (hindependent : format.Independent) :
    format.toFormat.Follows (.record fields) := by
  intro _ _ hreforms
  simp only [toFormat]
  cases hreforms with
  | @turn _ items members hlength hperm =>
    rw [h.keys] at hperm
    have hfew : items.length ≤ format.keys.length := by
      rwa [← h.keys, List.length_map]
    have hnodup := (hperm.map Prod.fst).nodup_iff.2 (hindependent.nodup_zip items)
    rw [toOption_ofValue_array hindependent, if_pos hfew,
      toOption_ofValue_of_perm format hindependent hperm hnodup]
  | element hlength hvw => exact h.toOption_element hindependent hlength hvw _
  | member hfield hvw => exact h.toOption_member hfield hvw _ _

end RecordFormat

/-! ## Any number of records -/

/-- **By any number of steps.** Documents that differ in the forms of their records are read alike.
-/
theorem Format.Follows.ofValue_eq_ok_iff {outline : Outline} {format : Format α}
    (h : format.Follows outline) {v w : Value} (hvw : outline.SameBut v w) (x : α) :
    format.ofValue v = .ok x ↔ format.ofValue w = .ok x := by
  rw [← toOption_eq_some, ← toOption_eq_some]
  induction hvw with
  | rel v w hstep => rw [h hstep]
  | refl v => rfl
  | symm v w _ ih => exact ih.symm
  | trans u v w _ _ ihuv ihvw => exact ihuv.trans ihvw

end MonitorCore.Json

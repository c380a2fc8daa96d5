import Mathlib.Logic.Equiv.Basic
import Mathlib.Order.Fin.Basic
import MonitorCore.Failure.Format
import MonitorCore.Proofs.Text.ByteOrder
import MonitorCore.Proofs.Text.Override

/-!
# Field maps

The field map of records keeps, of all the records with one path, the message of the last. How
records with different paths lie between each other has no effect on it (`Reordered.fieldMapOf_eq`),
and of the records a body tells no more than the field map does.
-/

namespace MonitorCore

open Text (KeyMap bytes)

namespace Failure

variable {records records' : List ErrorRecord} {path message : String}

theorem fieldMapOf_ordered (records : List ErrorRecord) : (fieldMapOf records).Ordered :=
  (KeyMap.ofList_ordered _).1

theorem fieldMapOf_bytes_lt (records : List ErrorRecord) :
    (fieldMapOf records).Pairwise fun first second ↦ bytes first.1 < bytes second.1 :=
  (fieldMapOf_ordered records).imp Text.bytes_lt_bytes.2

theorem fieldMapOf_append (records later : List ErrorRecord) :
    fieldMapOf (records ++ later) = (fieldMapOf records).override (fieldMapOf later) := by
  rw [fieldMapOf, List.map_append, KeyMap.ofList_append]
  rfl

theorem fieldMap?_ordered {failure : Failure} {fields : KeyMap String}
    (h : failure.fieldMap? = some fields) : fields.Ordered := by
  cases failure with
  | simple kind message => cases h
  | validation kind message records => exact Option.some_inj.1 h ▸ fieldMapOf_ordered records

/-! ## The last record of a path -/

theorem mem_fieldMapOf_iff_append : (path, message) ∈ fieldMapOf records ↔
    ∃ before record after, records = before ++ record :: after ∧ record.path = path ∧
      record.message = message ∧ ∀ later ∈ after, later.path ≠ path := by
  rw [fieldMapOf, KeyMap.mem_ofList]
  constructor
  · rintro ⟨before, after, hpairs, hlater⟩
    obtain ⟨front, tail, rfl, -, htail⟩ := List.map_eq_append_iff.1 hpairs
    obtain ⟨record, back, rfl, heq, rfl⟩ := List.map_eq_cons_iff.1 htail
    obtain ⟨hpath, hmessage⟩ := Prod.mk.inj heq
    exact ⟨front, record, back, rfl, hpath, hmessage, by simpa using hlater⟩
  · rintro ⟨before, record, after, rfl, rfl, rfl, hlater⟩
    exact ⟨_, _, List.map_append, by simpa using hlater⟩

/-- **The last record of a path**, by its place, gives the message of the path. -/
theorem mem_fieldMapOf : (path, message) ∈ fieldMapOf records ↔
    ∃ i, (records.get i).path = path ∧ (records.get i).message = message ∧
      ∀ j, i < j → (records.get j).path ≠ path := by
  rw [mem_fieldMapOf_iff_append]
  constructor
  · rintro ⟨before, record, after, rfl, rfl, rfl, hlater⟩
    refine ⟨⟨before.length, by simp⟩, by simp, by simp, fun j hlt ↦ hlater _ ?_⟩
    obtain ⟨n, hn⟩ := Nat.exists_eq_add_of_lt (Fin.lt_def.1 hlt)
    have hsum : j.val = before.length + (n + 1) := hn
    rw [List.get_eq_getElem, List.getElem_append_right (by omega)]
    simp [hsum]
  · rintro ⟨i, rfl, rfl, hlater⟩
    refine ⟨records.take i, records.get i, records.drop (i + 1), by simp, rfl, rfl, ?_⟩
    intro later hmem
    obtain ⟨n, hn, rfl⟩ := List.mem_drop_iff_getElem.1 hmem
    exact hlater ⟨i + 1 + n, by omega⟩ (Fin.lt_def.2 (by simp; omega))

theorem mem_keys_fieldMapOf : path ∈ (fieldMapOf records).map Prod.fst ↔
    ∃ record ∈ records, record.path = path := by
  rw [fieldMapOf, KeyMap.mem_keys_ofList, List.map_map]
  exact List.mem_map

/-! ## Reordered records -/

/-- The same records in other places, such that no two records with one path are exchanged. -/
def Reordered (records records' : List ErrorRecord) : Prop :=
  ∃ place : Fin records.length ≃ Fin records'.length,
    (∀ i, records'.get (place i) = records.get i) ∧
      ∀ i j, i < j → (records.get i).path = (records.get j).path → place i < place j

theorem Reordered.symm (h : Reordered records records') : Reordered records' records := by
  obtain ⟨place, hsame, hkeeps⟩ := h
  refine ⟨place.symm, fun i ↦ ?_, fun i j hlt hpath ↦ ?_⟩
  · rw [← hsame, place.apply_symm_apply]
  · obtain ⟨i, rfl⟩ := place.surjective i
    obtain ⟨j, rfl⟩ := place.surjective j
    rw [hsame, hsame] at hpath
    rw [place.symm_apply_apply, place.symm_apply_apply]
    by_contra hnot
    rcases (not_lt.1 hnot).lt_or_eq with hgt | heq
    · exact lt_asymm hlt (hkeeps j i hgt hpath.symm)
    · exact hlt.ne' (congrArg place heq)

theorem Reordered.mem_fieldMapOf_of_mem (h : Reordered records records')
    (hmem : (path, message) ∈ fieldMapOf records) : (path, message) ∈ fieldMapOf records' := by
  obtain ⟨place, hsame, hkeeps⟩ := h
  obtain ⟨i, hpath, hmessage, hlast⟩ := mem_fieldMapOf.1 hmem
  refine mem_fieldMapOf.2 ⟨place i, by rw [hsame, hpath], by rw [hsame, hmessage], ?_⟩
  intro j hlt hjpath
  obtain ⟨j, rfl⟩ := place.surjective j
  rw [hsame] at hjpath
  -- the record stood before the last one with its path, which it now follows
  rcases lt_trichotomy j i with hbefore | rfl | hafter
  · exact lt_asymm hlt (hkeeps j i hbefore (hjpath.trans hpath.symm))
  · exact lt_irrefl _ hlt
  · exact hlast j hafter hjpath

/-- **Reordered records** have the same field map. -/
theorem Reordered.fieldMapOf_eq (h : Reordered records records') :
    fieldMapOf records' = fieldMapOf records :=
  (fieldMapOf_ordered records').eq_of_mem_iff (fieldMapOf_ordered records) fun _ ↦
    ⟨h.symm.mem_fieldMapOf_of_mem, h.mem_fieldMapOf_of_mem⟩

theorem Reordered.body_eq (h : Reordered records records') (kind : ValidationKind)
    (message : String) :
    (validation kind message records').body = (validation kind message records).body := by
  rw [body, body, fieldMap?, fieldMap?, h.fieldMapOf_eq]
  rfl

theorem ofRecords_of_ne_empty (kind : ValidationKind) {text : String} (h : text ≠ "")
    (records : List ErrorRecord) :
    ofRecords kind (some text) records = validation kind text records := by
  rw [ofRecords, if_neg h]

end Failure

open Failure

/-- **The field map keeps the last message of each path.** Its keys are the paths of the records,
increasing by their UTF-8 bytes, and the message of a path is that of its last record. The map of
records and later ones is the map of the records overridden by that of the later ones. Records that
are reordered, no two with one path being exchanged, have the same map, and the body is the same
under the same kind and message, such as one that the caller gave. -/
theorem fieldMap_keeps_last (kind : ValidationKind) (records : List ErrorRecord) :
    (∀ message, (validation kind message records).fieldMap? = some (fieldMapOf records)) ∧
    (∀ text, (ofRecords kind text records).fieldMap? = some (fieldMapOf records)) ∧
    ((fieldMapOf records).Pairwise fun first second ↦ bytes first.1 < bytes second.1) ∧
    (∀ path, path ∈ (fieldMapOf records).map Prod.fst ↔ ∃ record ∈ records, record.path = path) ∧
    (∀ path message, (path, message) ∈ fieldMapOf records ↔
      ∃ i, (records.get i).path = path ∧ (records.get i).message = message ∧
        ∀ j, i < j → (records.get j).path ≠ path) ∧
    (∀ later, fieldMapOf (records ++ later) = (fieldMapOf records).override (fieldMapOf later)) ∧
    (∀ later path, (fieldMapOf (records ++ later)).get? path =
      ((fieldMapOf later).get? path).or ((fieldMapOf records).get? path)) ∧
    ∀ records', Reordered records records' →
      fieldMapOf records' = fieldMapOf records ∧
      (∀ message,
        (validation kind message records').body = (validation kind message records).body) ∧
      ∀ text, text ≠ "" →
        (ofRecords kind (some text) records').body = (ofRecords kind (some text) records).body := by
  refine ⟨fun _ ↦ rfl, fun text ↦ ?_, fieldMapOf_bytes_lt records, fun _ ↦ mem_keys_fieldMapOf,
    fun _ _ ↦ mem_fieldMapOf, fieldMapOf_append records, fun later path ↦ ?_, fun records' h ↦ ?_⟩
  · cases text <;> rfl
  · rw [fieldMapOf_append, KeyMap.get?_override path _ (fieldMapOf_ordered later)]
  · refine ⟨h.fieldMapOf_eq, h.body_eq kind, fun text htext ↦ ?_⟩
    rw [ofRecords_of_ne_empty kind htext, ofRecords_of_ne_empty kind htext, h.body_eq]

/-- The first path comes after the second one by its UTF-8 bytes, though not by its UTF-16 units.
The record with the other path changes its place, and the two with one path keep their order. -/
theorem fieldMap_keeps_last_of_reordered :
    let early : ErrorRecord := ⟨"😀", "required", "is missing"⟩
    let other : ErrorRecord := ⟨"ａ", "unique", "is taken"⟩
    let late : ErrorRecord := ⟨"😀", "type", "is no text"⟩
    Reordered [early, other, late] [other, early, late] ∧ "reason" ≠ "" ∧
      fieldMapOf [other, early, late] = [("ａ", "is taken"), ("😀", "is no text")] ∧
      (ofRecords .dataSet (some "reason") [other, early, late]).body =
        (ofRecords .dataSet (some "reason") [early, other, late]).body := by
  intro early other late
  have hreordered : Reordered [early, other, late] [other, early, late] :=
    ⟨Equiv.swap (0 : Fin 3) 1, by decide, by decide⟩
  obtain ⟨-, -, -, -, -, -, -, hkeeps⟩ := fieldMap_keeps_last .dataSet [early, other, late]
  obtain ⟨hmap, -, hbody⟩ := hkeeps _ hreordered
  exact ⟨hreordered, by decide, hmap.trans (by decide), hbody "reason" (by decide)⟩

end MonitorCore

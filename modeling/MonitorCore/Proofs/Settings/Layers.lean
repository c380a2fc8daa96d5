import MonitorCore.Proofs.Settings.Merge
import MonitorCore.Settings.Load

/-!
# Layers of settings

A layer is put setting by setting. From the lower layer, the file, a section gets the members of the
table under its name, whatever else is in the file (`section_putAll_ofMembers`). From the upper
layer, the environment, it gets the variables that lead to its fields, in any order of the others
(`Section.putAll`).
-/

namespace MonitorCore

namespace Setting

variable [Platform] {root value : Setting} {name key : String} {fields : String → Option Setting}
  {layer : List (String × Setting)}

/-! ## Layers one after the other -/

theorem putAll_append (layer more : List (String × Setting)) (root : Setting) :
    putAll (layer ++ more) root = (putAll layer root).bind (putAll more) := by
  induction layer generalizing root with
  | nil => rfl
  | cons entry layer ih =>
    rw [List.cons_append, putAll, putAll]
    cases put (.ofText entry.1) entry.2 root with
    | broken => rfl
    | ended root' => exact ih root'

theorem putAll_cons_of_ended {root' : Setting} (h : put (.ofText key) value root = .ended root')
    (layer : List (String × Setting)) :
    putAll ((key, value) :: layer) root = putAll layer root' := by
  rw [putAll, h, Attempt.bind_ended]

/-! ## The file -/

theorem exists_putAll_ofMembers (origin : String) {members : List (String × Document)}
    (hnames : ∀ member ∈ members, KeyPath.IsName member.1)
    (hne : ∀ member ∈ members, member.1 ≠ name) (root : Setting) :
    ∃ root', putAll (ofMembers origin members) root = .ended root' ∧
      member? name root' = member? name root := by
  induction members generalizing root with
  | nil => exact ⟨root, rfl, rfl⟩
  | cons member members ih =>
    obtain ⟨key, document⟩ := member
    have hput : put (.ofText key) (ofDocument origin document) root =
        .ended (putMember key (ofDocument origin document) root) := by
      rw [KeyPath.ofText_of_isName (hnames _ (.head _)), put]
    obtain ⟨root', hall, hmember⟩ := ih (fun e he ↦ hnames e (.tail _ he))
      (fun e he ↦ hne e (.tail _ he)) (putMember key (ofDocument origin document) root)
    refine ⟨root', (putAll_cons_of_ended hput _).trans hall, ?_⟩
    rw [hmember, putMember, member?_withMember, if_neg (hne _ (.head _))]

/-- The members of the table under a name; there are none if there is no such table. -/
def sectionOf (name : String) (members : List (String × Document)) : List (String × Document) :=
  ((members.lookup name).map Document.root).getD []

/-- The setting of a part of a document, put where nothing was. -/
def placed (origin : String) (document : Document) : Setting :=
  merge none (ofDocument origin document)

/-- **A section of a file.** It has the members of its table, and nothing else in the file is of
account. -/
theorem section_putAll_ofMembers (origin : String) {members : List (String × Document)}
    (hnames : ∀ member ∈ members, KeyPath.IsName member.1) (hnodup : (members.map Prod.fst).Nodup)
    (htable : ∀ document, members.lookup name = some document →
      ∃ inner, document = .table inner ∧ (inner.map Prod.fst).Nodup) :
    ∃ root, putAll (ofMembers origin members) empty = .ended root ∧
      Section name (fun key ↦ ((sectionOf name members).lookup key).map (placed origin)) root := by
  cases hlookup : members.lookup name with
  | none =>
    have hne : ∀ member ∈ members, member.1 ≠ name := fun member hmember ↦
      (bne_iff_ne.1 (List.lookup_eq_none_iff.1 hlookup member hmember)).symm
    obtain ⟨root, hall, hmember⟩ := exists_putAll_ofMembers origin hnames hne empty
    refine ⟨root, hall, ?_⟩
    rw [sectionOf, hlookup]
    exact (section_empty name).congr hmember
  | some document =>
    obtain ⟨inner, rfl, hinner⟩ := htable document hlookup
    obtain ⟨before, after, rfl, hbefore⟩ := List.lookup_eq_some_iff.1 hlookup
    rw [List.map_append, List.map_cons, List.nodup_append, List.nodup_cons] at hnodup
    have hafter : ∀ member ∈ after, member.1 ≠ name :=
      fun member hmember ↦ Text.KeyMap.ne_of_not_mem_keys hnodup.2.1.1 hmember
    -- what stands before the table, the table, and what stands behind it
    obtain ⟨root₁, hroot₁, hmember₁⟩ := exists_putAll_ofMembers origin
      (fun member hmember ↦ hnames member (List.mem_append_left _ hmember))
      (fun member hmember ↦ (bne_iff_ne.1 (hbefore member hmember)).symm) empty
    have hsection := section_putMember_table hmember₁ origin hinner
    obtain ⟨root₂, hroot₂, hmember₂⟩ := exists_putAll_ofMembers origin
      (fun member hmember ↦ hnames member (List.mem_append_right _ (.tail _ hmember))) hafter
      (putMember name (ofDocument origin (.table inner)) root₁)
    have hput : put (.ofText name) (ofDocument origin (.table inner)) root₁ =
        .ended (putMember name (ofDocument origin (.table inner)) root₁) := by
      rw [KeyPath.ofText_of_isName (hnames _ (List.mem_append_right _ (.head _))), put]
    refine ⟨root₂, ?_, ?_⟩
    · rw [ofMembers_append, ofMembers, putAll_append, hroot₁, Attempt.bind_ended,
        putAll_cons_of_ended hput, hroot₂]
    · rw [sectionOf, hlookup]
      exact hsection.congr hmember₂

/-! ## The environment -/

theorem Section.put_entry {path : KeyPath} {root' : Setting} (h : Section name fields root)
    (hentry : path.first ≠ name ∨
      (∃ field, path = .child (.top name) field) ∧ ∃ origin scalar, value = .scalar origin scalar)
    (hput : put path value root = .ended root') :
    ∃ fields', Section name fields' root' ∧ ∀ field,
      (path = .child (.top name) field ∧ fields' field = some value) ∨
      (path ≠ .child (.top name) field ∧ fields' field = fields field) := by
  rcases hentry with hne | ⟨⟨field, rfl⟩, origin, scalar, rfl⟩
  · refine ⟨fields, h.put_of_ne hput hne, fun field ↦ .inr ⟨?_, rfl⟩⟩
    rintro rfl
    exact hne rfl
  · obtain ⟨root'', hput', hsection⟩ := h.put_child field origin scalar
    obtain rfl : root'' = root' := Attempt.ended.inj (hput'.symm.trans hput)
    refine ⟨_, hsection, fun key ↦ ?_⟩
    by_cases hkey : field = key
    · exact .inl ⟨by rw [hkey], if_pos hkey⟩
    · exact .inr ⟨fun heq ↦ hkey (KeyPath.child.inj heq).2, if_neg hkey⟩

/-- **A section and a layer over it.** Every field that a setting of the layer leads to has one of
these settings, and every other field keeps what it had. -/
theorem Section.putAll (h : Section name fields root)
    (hlayer : ∀ entry ∈ layer, (KeyPath.ofText entry.1).first ≠ name ∨
      (∃ field, KeyPath.ofText entry.1 = .child (.top name) field) ∧
        ∃ origin scalar, entry.2 = .scalar origin scalar) :
    (Setting.putAll layer root = .broken ∧ ∃ entry ∈ layer, (KeyPath.ofText entry.1).Indexed) ∨
    ∃ root' fields', Setting.putAll layer root = .ended root' ∧ Section name fields' root' ∧
      ∀ field,
        (∃ entry ∈ layer, KeyPath.ofText entry.1 = .child (.top name) field ∧
          fields' field = some entry.2) ∨
        ((∀ entry ∈ layer, KeyPath.ofText entry.1 ≠ .child (.top name) field) ∧
          fields' field = fields field) := by
  induction layer generalizing root fields with
  | nil => exact .inr ⟨root, fields, rfl, h, fun field ↦ .inr ⟨nofun, rfl⟩⟩
  | cons entry layer ih =>
    obtain ⟨key, value⟩ := entry
    cases hput : put (.ofText key) value root with
    | broken =>
      refine .inl ⟨by rw [Setting.putAll, hput, Attempt.bind_broken], (key, value), .head _, ?_⟩
      exact Classical.not_not.1 fun hindexed ↦ put_of_not_indexed hindexed value root hput
    | ended root₁ =>
      obtain ⟨fields₁, hsection, hfields₁⟩ := h.put_entry (hlayer (key, value) (.head _)) hput
      rw [putAll_cons_of_ended hput]
      rcases ih hsection fun e he ↦ hlayer e (.tail _ he) with
        ⟨hbroken, e, he, hindexed⟩ | ⟨root', fields', hended, hsection', hfields'⟩
      · exact .inl ⟨hbroken, e, .tail _ he, hindexed⟩
      · refine .inr ⟨root', fields', hended, hsection', fun field ↦ ?_⟩
        -- a later setting of the layer counts before this one, and this one before what was there
        rcases hfields' field with ⟨e, he, hpath, heq⟩ | ⟨hnone, heq⟩
        · exact .inl ⟨e, .tail _ he, hpath, heq⟩
        · rcases hfields₁ field with ⟨hpath, heq₁⟩ | ⟨hpath, heq₁⟩
          · exact .inl ⟨(key, value), .head _, hpath, heq.trans heq₁⟩
          · exact .inr ⟨List.forall_mem_cons.2 ⟨hpath, hnone⟩, heq.trans heq₁⟩

end Setting

end MonitorCore

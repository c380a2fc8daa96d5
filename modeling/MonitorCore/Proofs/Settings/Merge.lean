import Mathlib.Data.List.TakeWhile
import MonitorCore.Settings.Setting

/-!
# Putting settings at key paths

A setting that is put at a path changes what is under the first name of the path and nothing else
(`member?_put_of_ne`), and it can only break off at an index (`put_of_not_indexed`).

So the fields of one table can be told without the rest of the tree. `Section` says which settings
they have, and each way of putting a setting has one law about it: under another name, under a
field, or, where no table is yet, a whole table at once.
-/

namespace MonitorCore

namespace KeyPath

def first : KeyPath → String
  | top key => key
  | child parent _ => parent.first
  | item parent _ => parent.first

def Indexed : KeyPath → Prop
  | top _ => False
  | child parent _ => parent.Indexed
  | item _ _ => True

/-- The text is a name that may stand in a path. -/
def IsName (s : String) : Prop := s ≠ "" ∧ ∀ c ∈ s.toList, inName c = true

theorem ofText_of_isName {s : String} (h : IsName s) : ofText s = .top s := by
  have htake : s.toList.takeWhile inName = s.toList := List.takeWhile_eq_self_iff.2 h.2
  have hdrop : s.toList.dropWhile inName = [] := List.dropWhile_eq_nil_iff.2 h.2
  have hne : s.toList ≠ [] := by simpa using h.1
  rw [ofText, read?, htake, hdrop]
  split
  · next heq => exact absurd heq hne
  · simp [readSteps]

end KeyPath

namespace Setting

open Text.KeyMap (ne_of_not_mem_keys)

variable {root table value : Setting} {path : KeyPath} {key field : String}

/-! ## Changes at a path -/

theorem member?_asTable (key : String) (setting : Setting) :
    member? key setting.asTable = member? key setting := by
  cases setting <;> rfl

section Paths

variable [Platform]

theorem member?_change_of_ne {f : Setting → Attempt Setting} {root' : Setting}
    (h : change path f root = .ended root') (hne : path.first ≠ key) :
    member? key root' = member? key root := by
  -- the path is taken from its end, so the change grows by one step on the way to the root
  induction path generalizing f with
  | top name =>
    obtain ⟨value, -, rfl⟩ := Attempt.map_eq_ended_iff.1 h
    exact (member?_withMember ..).trans (if_neg hne)
  | child parent name ih => exact ih h hne
  | item parent index ih => exact ih h hne

theorem member?_put_of_ne {root' : Setting} (h : put path value root = .ended root')
    (hne : path.first ≠ key) : member? key root' = member? key root := by
  cases path with
  | top name =>
    cases h
    exact (member?_withMember ..).trans (if_neg hne)
  | child parent name => exact member?_change_of_ne h hne
  | item parent index => exact member?_change_of_ne h hne

theorem change_of_not_indexed {f : Setting → Attempt Setting} (hpath : ¬path.Indexed)
    (hf : ∀ setting, f setting ≠ .broken) (root : Setting) : change path f root ≠ .broken := by
  induction path generalizing f with
  | top name =>
    rw [change, Ne, Attempt.map_eq_broken_iff]
    exact hf _
  | child parent name ih =>
    refine ih hpath fun setting ↦ ?_
    rw [Ne, Attempt.map_eq_broken_iff]
    exact hf _
  | item parent index => exact absurd trivial hpath

theorem put_of_not_indexed (hpath : ¬path.Indexed) (value root : Setting) :
    put path value root ≠ .broken := by
  cases path with
  | top name => exact nofun
  | child parent name =>
    have hparent : ¬parent.Indexed := hpath
    rw [put]
    refine change_of_not_indexed hparent (fun table ↦ ?_) root
    exact nofun
  | item parent index => exact absurd trivial hpath

end Paths

/-! ## The fields of one section -/

/-- The table under `name` has the settings `fields`; it may be absent, and then there are none. -/
structure Section (name : String) (fields : String → Option Setting) (root : Setting) : Prop where
  isTable : ∀ setting, member? name root = some setting →
    ∃ origin members, setting = .table origin members
  member : ∀ field, (member? name root).bind (member? field) = fields field

theorem section_empty (name : String) : Section name (fun _ ↦ none) empty where
  isTable := nofun
  member _ := rfl

variable {name : String} {fields : String → Option Setting}

theorem Section.congr {root' : Setting} (h : Section name fields root)
    (hmember : member? name root' = member? name root) : Section name fields root' where
  isTable := hmember ▸ h.isTable
  member := hmember ▸ h.member

theorem Section.put_of_ne [Platform] {root' : Setting} (h : Section name fields root)
    (hput : put path value root = .ended root') (hne : path.first ≠ name) :
    Section name fields root' :=
  h.congr (member?_put_of_ne hput hne)

theorem Section.member_asTable (h : Section name fields root) (field : String) :
    member? field ((member? name root).getD nothing).asTable = fields field := by
  rw [member?_asTable, ← h.member]
  cases member? name root <;> rfl

theorem asTable_isTable (setting : Setting) :
    ∃ origin members, setting.asTable = .table origin members := by
  cases setting with
  | table origin members => exact ⟨origin, members, rfl⟩
  | scalar | list => exact ⟨none, [], rfl⟩

theorem section_withMember (hmember : ∀ field, member? field table = fields field)
    (htable : ∃ origin members, table = .table origin members) (root : Setting) :
    Section name fields (withMember name table root) where
  isTable := by
    rintro setting hsetting
    rw [member?_withMember, if_pos rfl] at hsetting
    exact Option.some.inj hsetting ▸ htable
  member field := by
    rw [member?_withMember, if_pos rfl, Option.bind_some, hmember]

theorem Section.put_child [Platform] (h : Section name fields root) (field : String)
    (origin : Option String) (scalar : Scalar) :
    ∃ root', put (.child (.top name) field) (.scalar origin scalar) root = .ended root' ∧
      Section name (fun key ↦ if field = key then some (.scalar origin scalar) else fields key)
        root' := by
  refine ⟨_, rfl, section_withMember (fun key ↦ ?_) ?_ root⟩
  · rw [putMember, member?_withMember, merge, h.member_asTable]
  · obtain ⟨origin', members, htable⟩ := asTable_isTable ((member? name root).getD nothing)
    exact ⟨origin', _, by rw [htable, putMember, withMember]⟩

/-! ## Whole tables -/

theorem ofMembers_eq_map (origin : String) (members : List (String × Document)) :
    ofMembers origin members =
      members.map fun member ↦ (member.1, ofDocument origin member.2) := by
  induction members with
  | nil => rfl
  | cons member members ih => rw [ofMembers, ih, List.map_cons]

theorem ofMembers_append (origin : String) (members more : List (String × Document)) :
    ofMembers origin (members ++ more) = ofMembers origin members ++ ofMembers origin more := by
  simp only [ofMembers_eq_map, List.map_append]

theorem exists_mergeMembers_table (origin : Option String)
    (members incoming : List (String × Setting)) :
    ∃ merged, mergeMembers (.table origin members) incoming = .table origin merged := by
  induction incoming generalizing members with
  | nil => exact ⟨members, rfl⟩
  | cons entry incoming ih => exact ih _

theorem member?_mergeMembers {incoming : List (String × Setting)}
    (hnodup : (incoming.map Prod.fst).Nodup)
    (hfresh : ∀ entry ∈ incoming, member? entry.1 table = none) (key : String) :
    member? key (mergeMembers table incoming) =
      ((incoming.lookup key).map (merge none)).or (member? key table) := by
  induction incoming generalizing table with
  | nil => rfl
  | cons entry incoming ih =>
    obtain ⟨k, value⟩ := entry
    rw [List.map_cons, List.nodup_cons] at hnodup
    have hlater : ∀ entry ∈ incoming,
        member? entry.1 (withMember k (merge (member? k table) value) table) = none := by
      intro entry hentry
      rw [member?_withMember, if_neg (ne_of_not_mem_keys hnodup.1 hentry).symm,
        hfresh _ (.tail _ hentry)]
    rw [mergeMembers, ih hnodup.2 hlater, member?_withMember, List.lookup_cons]
    -- the first member is the only one with its key, and nothing was under it before
    by_cases hkey : key = k
    · subst hkey
      have hnone : incoming.lookup key = none := List.lookup_eq_none_iff.2 fun entry hentry ↦
        bne_iff_ne.2 (ne_of_not_mem_keys hnodup.1 hentry).symm
      simp [hnone, hfresh (key, value) (.head _)]
    · simp [beq_false_of_ne hkey, Ne.symm hkey]

theorem lookup_ofMembers (origin key : String) (members : List (String × Document)) :
    (ofMembers origin members).lookup key = (members.lookup key).map (ofDocument origin) := by
  induction members with
  | nil => rfl
  | cons member members ih =>
    rw [ofMembers, List.lookup_cons, List.lookup_cons, ih]
    split <;> rfl

/-- A whole table in place of an absent section: its members are put one after the other. -/
theorem section_putMember_table (hnone : member? name root = none) (origin : String)
    {members : List (String × Document)} (hnodup : (members.map Prod.fst).Nodup) :
    Section name (fun key ↦ (members.lookup key).map fun document ↦
        merge none (ofDocument origin document))
      (putMember name (ofDocument origin (.table members)) root) := by
  rw [putMember, hnone, ofDocument, merge]
  refine section_withMember (fun key ↦ ?_) ⟨none, exists_mergeMembers_table none [] _⟩ root
  have hkeys : ((ofMembers origin members).map Prod.fst).Nodup := by
    rwa [ofMembers_eq_map, List.map_map]
  rw [member?_mergeMembers hkeys (fun _ _ ↦ rfl), lookup_ofMembers, Option.map_map]
  exact Option.or_none

end Setting

end MonitorCore

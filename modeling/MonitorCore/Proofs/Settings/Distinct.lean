import MonitorCore.Proofs.Json.Canonical
import MonitorCore.Settings.Ini

/-!
# Documents without repeated keys

No table of a document has a key twice, whatever the format that the document was read from. A table
grows by entering values under keys, and that keeps its keys apart (`Keyed.enter`); so the formats
need no more than to say which of their values have become documents. Here are JSON, whose maps are
in key order, and files of sections.
-/

namespace MonitorCore

variable {α : Type} {P : α → Prop} {key : String} {value : α} {members : List (String × α)}

/-- No key stands twice, and all values are as required. -/
structure Keyed (P : α → Prop) (members : List (String × α)) : Prop where
  nodup : (members.map Prod.fst).Nodup
  values : ∀ member ∈ members, P member.2

namespace Document

theorem mem_enter {entry : String × α} (h : entry ∈ enter key value members) :
    entry = (key, value) ∨ entry ∈ members := by
  induction members with
  | nil => simpa [enter] using h
  | cons first rest ih =>
    rw [enter] at h
    split at h
    · next heq =>
      exact (List.mem_cons.1 h).imp (fun hentry ↦ heq ▸ hentry) (List.mem_cons_of_mem _)
    · rcases List.mem_cons.1 h with rfl | h
      · exact .inr (.head _)
      · exact (ih h).imp_right (List.mem_cons_of_mem _)

theorem mem_keys_enter {k : String} :
    k ∈ (enter key value members).map Prod.fst ↔ k = key ∨ k ∈ members.map Prod.fst := by
  induction members with
  | nil => simp [enter]
  | cons first rest ih =>
    rw [enter]
    split
    · next heq => simp [heq]
    · rw [List.map_cons, List.mem_cons, ih, List.map_cons, List.mem_cons]
      exact or_left_comm

theorem nodup_enter (h : (members.map Prod.fst).Nodup) (key : String) (value : α) :
    ((enter key value members).map Prod.fst).Nodup := by
  induction members with
  | nil => exact List.nodup_cons.2 ⟨List.not_mem_nil, .nil⟩
  | cons first rest ih =>
    obtain ⟨hfirst, hrest⟩ := List.nodup_cons.1 h
    rw [enter]
    split
    · exact List.nodup_cons.2 ⟨hfirst, hrest⟩
    · next hne =>
      exact List.nodup_cons.2 ⟨fun hmem ↦ (mem_keys_enter.1 hmem).elim hne hfirst, ih hrest⟩

end Document

namespace Keyed

theorem nil : Keyed P [] := ⟨.nil, nofun⟩

theorem enter (h : Keyed P members) (key : String) (hvalue : P value) :
    Keyed P (Document.enter key value members) where
  nodup := Document.nodup_enter h.nodup key value
  values member hmember := by
    rcases Document.mem_enter hmember with rfl | hmember
    · exact hvalue
    · exact h.values member hmember

theorem of_find? (h : Keyed P members)
    (hfind : (List.find? (fun entry ↦ entry.1 == key) members).map (·.2) = some value) :
    P value := by
  obtain ⟨entry, hentry, rfl⟩ := Option.map_eq_some_iff.1 hfind
  exact h.values entry (List.mem_of_find?_eq_some hentry)

theorem map {β : Type} {Q : β → Prop} {f : α → β} (h : Keyed P members)
    (hf : ∀ member ∈ members, P member.2 → Q (f member.2)) :
    Keyed Q (members.map fun member ↦ (member.1, f member.2)) where
  nodup := by rw [List.map_map]; exact h.nodup
  values member hmember := by
    obtain ⟨source, hsource, rfl⟩ := List.mem_map.1 hmember
    exact hf source hsource (h.values source hsource)

end Keyed

namespace Document

theorem lookup_eq_some_iff (h : (members.map Prod.fst).Nodup) :
    members.lookup key = some value ↔ (key, value) ∈ members := by
  constructor
  · intro hlookup
    obtain ⟨before, after, rfl, -⟩ := List.lookup_eq_some_iff.1 hlookup
    exact List.mem_append_right _ (.head _)
  · intro hmem
    obtain ⟨before, after, rfl⟩ := List.append_of_mem hmem
    rw [List.map_append, List.map_cons, List.nodup_append] at h
    refine List.lookup_eq_some_iff.2 ⟨before, after, rfl, fun entry hentry ↦ ?_⟩
    exact bne_iff_ne.2 (h.2.2 _ (List.mem_map_of_mem hentry) _ (.head _)).symm

theorem lookup_perm {members' : List (String × α)} (h : (members.map Prod.fst).Nodup)
    (hperm : members.Perm members') (key : String) : members'.lookup key = members.lookup key := by
  have h' : (members'.map Prod.fst).Nodup := (hperm.map Prod.fst).nodup_iff.1 h
  refine Option.ext fun value ↦ ?_
  rw [lookup_eq_some_iff h, lookup_eq_some_iff h', hperm.mem_iff]

theorem distinct_text (s : String) : (text s).Distinct := .scalar _

theorem distinct_table {members : List (String × Document)} :
    (table members).Distinct ↔ Keyed Distinct members := by
  constructor
  · rintro (_ | _ | ⟨hnodup, hvalues⟩)
    exact ⟨hnodup, hvalues⟩
  · exact fun h ↦ .table h.nodup h.values

theorem Distinct.root {document : Document} (h : document.Distinct) :
    Keyed Distinct document.root := by
  cases h with
  | scalar | list => exact .nil
  | table hnodup hvalues => exact ⟨hnodup, hvalues⟩

/-! ## JSON -/

theorem ofJsonItems_eq_map (items : List Json.Value) : ofJsonItems items = items.map ofJson := by
  induction items with
  | nil => rfl
  | cons item items ih => rw [ofJsonItems, ih, List.map_cons]

theorem ofJsonMembers_eq_map (members : List (String × Json.Value)) :
    ofJsonMembers members = members.map fun member ↦ (member.1, ofJson member.2) := by
  induction members with
  | nil => rfl
  | cons member members ih => rw [ofJsonMembers, ih, List.map_cons]

mutual

theorem distinct_canonical : ∀ v : Json.Value, (ofJson v.canonical).Distinct
  | .null | .bool _ | .number _ | .text _ => .scalar _
  | .array items => by
    rw [Json.Value.canonical, ofJson, ofJsonItems_eq_map, Json.Value.canonicalItems_eq_map]
    refine .list fun document hdocument ↦ ?_
    simp only [List.map_map, List.mem_map] at hdocument
    obtain ⟨item, hitem, rfl⟩ := hdocument
    exact distinct_canonicalItems items item hitem
  | .object members => by
    rw [Json.Value.canonical, ofJson, ofJsonMembers_eq_map, distinct_table]
    -- keys in order do not repeat; the values are canonical forms of values of the object
    have hmap := Text.KeyMap.ofList_ordered (Json.Value.canonicalMembers members)
    have hkeyed : Keyed (fun _ ↦ True)
        (Text.KeyMap.ofList (Json.Value.canonicalMembers members)) :=
      ⟨hmap.1.nodup, fun _ _ ↦ trivial⟩
    refine hkeyed.map fun member hmember _ ↦ ?_
    have hfrom := hmap.2 member hmember
    rw [Json.Value.canonicalMembers_eq_map] at hfrom
    obtain ⟨source, hsource, rfl⟩ := List.mem_map.1 hfrom
    exact distinct_canonicalMembers members source hsource

theorem distinct_canonicalItems :
    ∀ (items : List Json.Value), ∀ item ∈ items, (ofJson item.canonical).Distinct
  | [] => nofun
  | item :: items =>
    List.forall_mem_cons.2 ⟨distinct_canonical item, distinct_canonicalItems items⟩

theorem distinct_canonicalMembers :
    ∀ (members : List (String × Json.Value)), ∀ member ∈ members,
      (ofJson member.2.canonical).Distinct
  | [] => nofun
  | (_, value) :: members =>
    List.forall_mem_cons.2 ⟨distinct_canonical value, distinct_canonicalMembers members⟩

end

theorem readJson_distinct {s : String} {document : Document} (h : readJson s = some document) :
    document.Distinct := by
  simp only [readJson, Json.parse, Option.map_map, Option.map_eq_some_iff] at h
  obtain ⟨v, -, rfl⟩ := h
  exact distinct_canonical v

end Document

/-! ## Sections -/

namespace Ini

open Document (Distinct)

theorem State.enter_keyed {state : State} (h : Keyed Distinct state.members) (key value : String) :
    Keyed Distinct (state.enter key value).members := by
  rw [State.enter]
  split
  · exact h.enter key (Document.distinct_text value)
  · next name hheading =>
    have hinner : Keyed Distinct
        ((state.members.find? fun entry ↦ entry.1 == name).map (·.2.root) |>.getD []) := by
      cases hfind : state.members.find? fun entry ↦ entry.1 == name with
      | none => exact .nil
      | some entry => exact (h.values entry (List.mem_of_find?_eq_some hfind)).root
    exact h.enter name (Document.distinct_table.2 (hinner.enter key (Document.distinct_text value)))

theorem readLines_keyed {fuel : Nat} {fresh : Bool} {state state' : State} {cs : List Char}
    (hstate : Keyed Distinct state.members) (h : readLines fuel fresh state cs = some state') :
    Keyed Distinct state'.members := by
  fun_induction readLines fuel fresh state cs with
  | case2 => exact Option.some.inj h ▸ hstate
  | case3 _ _ _ _ _ _ ih => exact ih hstate h
  | case4 _ _ _ _ _ _ ih => exact ih hstate h
  -- a heading opens an empty section
  | case7 _ _ _ _ _ _ _ _ _ _ ih => exact ih (hstate.enter _ (Document.distinct_table.2 .nil)) h
  -- a line enters its value
  | case11 _ _ _ _ _ _ _ _ _ _ hkey _ _ hvalue hread ih =>
    simp only [hread, hkey, hvalue] at h
    exact ih (State.enter_keyed hstate ..) h
  | case8 _ _ _ _ _ _ _ _ hread => exact nomatch hread ▸ h
  | case9 _ _ _ _ _ _ _ _ _ _ hkey hread =>
    simp only [hread, hkey] at h
    exact nomatch h
  | case10 _ _ _ _ _ _ _ _ _ _ hkey hvalue hread =>
    simp only [hread, hkey, hvalue] at h
    exact nomatch h
  | case1 | case5 | case6 => exact nomatch h

theorem read_distinct {s : String} {document : Document} (h : read s = some document) :
    document.Distinct := by
  obtain ⟨state, hstate, rfl⟩ := Option.map_eq_some_iff.1 h
  exact Document.distinct_table.2 (readLines_keyed .nil hstate)

end Ini

end MonitorCore

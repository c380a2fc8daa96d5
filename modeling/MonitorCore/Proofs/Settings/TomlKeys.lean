import MonitorCore.Proofs.Settings.Distinct
import MonitorCore.Settings.Toml

/-!
# Keys of TOML documents

A statement changes the tables that are being built in one of four ways: a heading opens a table or
the next item of a list, a key gets a value, or a change is made in the table that a heading leads
to. Each keeps the keys of every table apart (`Keeps`), so the finished document has none twice.
-/

namespace MonitorCore.Toml

namespace Part

/-- No table in the part has a key twice. -/
inductive Distinct : Part → Prop
  | value {document : Document} (h : document.Distinct) : Distinct (.value document)
  | table {maker : Maker} {members : List (String × Part)} (hnodup : (members.map Prod.fst).Nodup)
      (hvalues : ∀ member ∈ members, Distinct member.2) : Distinct (.table maker members)
  | tables {items : List (List (String × Part))}
      (hnodup : ∀ members ∈ items, (members.map Prod.fst).Nodup)
      (hvalues : ∀ members ∈ items, ∀ member ∈ members, Distinct member.2) :
      Distinct (.tables items)

theorem distinct_table {maker : Maker} {members : Parts} :
    (table maker members).Distinct ↔ Keyed Distinct members := by
  constructor
  · rintro (_ | ⟨hnodup, hvalues⟩)
    exact ⟨hnodup, hvalues⟩
  · exact fun h ↦ .table h.nodup h.values

theorem distinct_tables {items : List Parts} :
    (tables items).Distinct ↔ ∀ members ∈ items, Keyed Distinct members := by
  constructor
  · rintro (_ | _ | ⟨hnodup, hvalues⟩)
    exact fun members hmembers ↦ ⟨hnodup members hmembers, hvalues members hmembers⟩
  · exact fun h ↦ .tables (fun members hmembers ↦ (h members hmembers).nodup)
      fun members hmembers ↦ (h members hmembers).values

theorem finishMembers_eq_map (members : Parts) :
    finishMembers members = members.map fun member ↦ (member.1, member.2.finish) := by
  induction members with
  | nil => rfl
  | cons member members ih => rw [finishMembers, ih, List.map_cons]

theorem finishItems_eq_map (items : List Parts) :
    finishItems items = items.map fun members ↦ .table (finishMembers members) := by
  induction items with
  | nil => rfl
  | cons members items ih => rw [finishItems, ih, List.map_cons]

theorem Distinct.finish {part : Part} (h : part.Distinct) : part.finish.Distinct := by
  induction h with
  | value h => exact h
  | table hnodup hvalues ih =>
    rw [Part.finish, finishMembers_eq_map, Document.distinct_table]
    exact (Keyed.mk hnodup hvalues).map fun member hmember _ ↦ ih member hmember
  | tables hnodup hvalues ih =>
    rw [Part.finish, finishItems_eq_map]
    refine .list fun document hdocument ↦ ?_
    obtain ⟨members, hmembers, rfl⟩ := List.mem_map.1 (List.mem_reverse.1 hdocument)
    rw [finishMembers_eq_map, Document.distinct_table]
    exact (Keyed.mk (hnodup members hmembers) (hvalues members hmembers)).map
      fun member hmember _ ↦ ih members hmembers member hmember

end Part

theorem finishMembers_distinct {parts : Parts} (h : Keyed Part.Distinct parts) :
    (Document.table (Part.finishMembers parts)).Distinct :=
  (Part.distinct_table.2 h : (Part.table .way parts).Distinct).finish

/-! ## Changes of tables -/

variable {change : Parts → Option Parts} {parts : Parts} {part : Part} {key : String}

/-- The change keeps the keys of all tables apart. -/
def Keeps (change : Parts → Option Parts) : Prop :=
  ∀ parts parts', Keyed Part.Distinct parts → change parts = some parts' →
    Keyed Part.Distinct parts'

theorem distinct_of_part? (h : Keyed Part.Distinct parts) (hpart : part? key parts = some part) :
    part.Distinct :=
  h.of_find? hpart

theorem openTable_keeps (key : String) : Keeps (openTable key) := by
  intro parts parts' hparts h
  rw [openTable] at h
  split at h
  · exact Option.some.inj h ▸ hparts.enter key (Part.distinct_table.2 .nil)
  · next inner hpart =>
    have hinner := Part.distinct_table.1 (distinct_of_part? hparts hpart)
    exact Option.some.inj h ▸ hparts.enter key (Part.distinct_table.2 hinner)
  · exact nomatch h

theorem openItem_keeps (key : String) : Keeps (openItem key) := by
  intro parts parts' hparts h
  rw [openItem] at h
  split at h
  · exact Option.some.inj h ▸ hparts.enter key
      (Part.distinct_tables.2 (List.forall_mem_singleton.2 .nil))
  · next items hpart =>
    have hitems := Part.distinct_tables.1 (distinct_of_part? hparts hpart)
    exact Option.some.inj h ▸ hparts.enter key
      (Part.distinct_tables.2 (List.forall_mem_cons.2 ⟨.nil, hitems⟩))
  · exact nomatch h

theorem enterDotted_keeps {value : Document} (hvalue : value.Distinct) (keys : List String) :
    Keeps (enterDotted value keys) := by
  intro parts parts' hparts h
  fun_induction enterDotted value keys parts generalizing parts' with
  | case2 => exact Option.some.inj h ▸ hparts.enter _ (.value hvalue)
  | case4 parts key keys _ _ ih =>
    obtain ⟨inner, hinner, rfl⟩ := Option.map_eq_some_iff.1 h
    exact hparts.enter _ (Part.distinct_table.2 (ih _ .nil hinner))
  | case5 parts key keys _ inner hpart ih =>
    obtain ⟨inner', hinner', rfl⟩ := Option.map_eq_some_iff.1 h
    have hinner := Part.distinct_table.1 (distinct_of_part? hparts hpart)
    exact hparts.enter _ (Part.distinct_table.2 (ih _ hinner hinner'))
  | case1 | case3 | case6 => exact nomatch h

theorem Keeps.atHeading (hchange : Keeps change) (keys : List String) :
    Keeps (atHeading change keys) := by
  intro parts parts' hparts h
  -- a table on the way that is not there yet begins empty; every other one keeps its keys
  fun_induction Toml.atHeading change keys parts generalizing parts' with
  | case1 parts => exact hchange parts parts' hparts h
  | case2 parts key keys _ ih =>
    obtain ⟨inner, hinner, rfl⟩ := Option.map_eq_some_iff.1 h
    exact hparts.enter _ (Part.distinct_table.2 (ih _ .nil hinner))
  | case4 parts key keys maker inner _ hpart ih =>
    obtain ⟨inner', hinner', rfl⟩ := Option.map_eq_some_iff.1 h
    have hinner := Part.distinct_table.1 (distinct_of_part? hparts hpart)
    exact hparts.enter _ (Part.distinct_table.2 (ih _ hinner hinner'))
  | case5 parts key keys inner items hpart ih =>
    obtain ⟨inner', hinner', rfl⟩ := Option.map_eq_some_iff.1 h
    -- of a list of tables only the last one changes
    obtain ⟨hinner, hitems⟩ := List.forall_mem_cons.1
      (Part.distinct_tables.1 (distinct_of_part? hparts hpart))
    exact hparts.enter _
      (Part.distinct_tables.2 (List.forall_mem_cons.2 ⟨ih _ hinner hinner', hitems⟩))
  | case3 | case6 => exact nomatch h

/-! ## Values -/

mutual

theorem readValue_distinct : ∀ (fuel : Nat) {cs rest : List Char} {document : Document},
    readValue fuel cs = some (document, rest) → document.Distinct
  | 0, _, _, _, h => nomatch h
  | fuel + 1, [], _, _, h => nomatch h
  | fuel + 1, c :: cs, rest, document, h => by
    simp only [readValue] at h
    split at h
    · obtain ⟨text, -, heq⟩ := Option.map_eq_some_iff.1 h
      cases heq
      exact Document.distinct_text _
    · split at h
      · obtain ⟨⟨items, rest'⟩, hitems, heq⟩ := Option.map_eq_some_iff.1 h
        cases heq
        exact .list (readItems_distinct fuel hitems)
      · split at h
        · split at h
          · cases h
            exact Document.distinct_table.2 .nil
          · obtain ⟨⟨parts, rest'⟩, hparts, heq⟩ := Option.map_eq_some_iff.1 h
            cases heq
            exact finishMembers_distinct (readMembers_keyed fuel .nil hparts)
        · obtain ⟨scalar, -, heq⟩ := Option.map_eq_some_iff.1 h
          cases heq
          exact .scalar scalar

theorem readItems_distinct : ∀ (fuel : Nat) {cs rest : List Char} {items : List Document},
    readItems fuel cs = some (items, rest) → ∀ item ∈ items, item.Distinct
  | 0, _, _, _, h => nomatch h
  | fuel + 1, cs, rest, items, h => by
    rw [readItems] at h
    split at h
    · cases h
      exact nofun
    · split at h
      · exact nomatch h
      · next item _ hitem =>
        have hfirst := readValue_distinct fuel hitem
        split at h
        · obtain ⟨⟨items, rest'⟩, hitems, heq⟩ := Option.map_eq_some_iff.1 h
          cases heq
          exact List.forall_mem_cons.2 ⟨hfirst, readItems_distinct fuel hitems⟩
        · cases h
          exact List.forall_mem_singleton.2 hfirst
        · exact nomatch h

theorem readMembers_keyed : ∀ (fuel : Nat) {cs rest : List Char} {parts parts' : Parts},
    Keyed Part.Distinct parts → readMembers fuel parts cs = some (parts', rest) →
      Keyed Part.Distinct parts'
  | 0, _, _, _, _, _, h => nomatch h
  | fuel + 1, cs, rest, parts, parts', hparts, h => by
    rw [readMembers] at h
    split at h
    · split at h
      · exact nomatch h
      · next hvalue =>
        have hdistinct := readValue_distinct fuel hvalue
        split at h
        · exact nomatch h
        · next henter =>
          have hentered := enterDotted_keeps hdistinct _ _ _ hparts henter
          split at h
          · exact readMembers_keyed fuel hentered h
          · cases h
            exact hentered
          · exact nomatch h
    · exact nomatch h

end

/-! ## Statements -/

variable {state state' : State} {cs rest : List Char}

theorem State.openHeading_keyed {keys : List String} {change : String → Parts → Option Parts}
    (hchange : ∀ key, Keeps (change key)) (hstate : Keyed Part.Distinct state.parts)
    (h : state.openHeading keys change = some state') : Keyed Part.Distinct state'.parts := by
  rw [State.openHeading] at h
  split at h
  · exact nomatch h
  · next key _ =>
    obtain ⟨parts, hparts, rfl⟩ := Option.map_eq_some_iff.1 h
    exact (hchange key).atHeading _ _ _ hstate hparts

theorem readStatement_keyed (hstate : Keyed Part.Distinct state.parts)
    (h : readStatement state cs = some (state', rest)) : Keyed Part.Distinct state'.parts := by
  unfold readStatement at h
  split at h
  · split at h
    · obtain ⟨_, -, h⟩ := Option.bind_eq_some_iff.1 h
      obtain ⟨opened, hopened, heq⟩ := Option.map_eq_some_iff.1 h
      cases heq
      exact State.openHeading_keyed openItem_keeps hstate hopened
    · exact nomatch h
  · split at h
    · obtain ⟨_, -, h⟩ := Option.bind_eq_some_iff.1 h
      obtain ⟨opened, hopened, heq⟩ := Option.map_eq_some_iff.1 h
      cases heq
      exact State.openHeading_keyed openTable_keeps hstate hopened
    · exact nomatch h
  · split at h
    · obtain ⟨⟨value, _⟩, hvalue, h⟩ := Option.bind_eq_some_iff.1 h
      obtain ⟨_, -, h⟩ := Option.bind_eq_some_iff.1 h
      obtain ⟨parts, hparts, heq⟩ := Option.map_eq_some_iff.1 h
      cases heq
      exact (enterDotted_keeps (readValue_distinct _ hvalue) _).atHeading _ _ _ hstate hparts
    · exact nomatch h

theorem readStatements_keyed {fuel : Nat} (hstate : Keyed Part.Distinct state.parts)
    (h : readStatements fuel state cs = some state') : Keyed Part.Distinct state'.parts := by
  induction fuel generalizing state cs with
  | zero => exact nomatch h
  | succ fuel ih =>
    rw [readStatements] at h
    split at h
    · exact Option.some.inj h ▸ hstate
    · obtain ⟨⟨next, rest⟩, hnext, h⟩ := Option.bind_eq_some_iff.1 h
      exact ih (readStatement_keyed hstate hnext) h

theorem read_distinct {s : String} {document : Document} (h : read s = some document) :
    document.Distinct := by
  obtain ⟨state, hstate, rfl⟩ := Option.map_eq_some_iff.1 h
  exact finishMembers_distinct (readStatements_keyed .nil hstate)

end MonitorCore.Toml

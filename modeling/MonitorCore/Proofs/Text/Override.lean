import Mathlib.Data.List.Nodup
import Mathlib.Data.List.Perm.Basic
import MonitorCore.Text.KeyMap

/-!
# Overriding maps

Maps in key order are equal if they have the same entries. So what a map results from shows in it
only by the last pair of each key (`mem_ofList`), and entering pairs in two goes is to override the
first map by the second (`ofList_append`).
-/

namespace MonitorCore.Text.KeyMap

variable {α : Type} {key : String} {value : α} {first second entries : KeyMap α}

/-! ## What is under a key -/

theorem get?_eq_none_iff : get? key entries = none ↔ key ∉ entries.map Prod.fst := by
  simp only [get?, Option.map_eq_none_iff, List.find?_eq_none, beq_iff_eq, List.mem_map,
    not_exists, not_and]

theorem mem_of_get? (h : get? key entries = some value) : (key, value) ∈ entries := by
  obtain ⟨entry, hfind, rfl⟩ := Option.map_eq_some_iff.1 h
  have hkey : entry.1 = key := by simpa using List.find?_some hfind
  exact hkey ▸ List.mem_of_find?_eq_some hfind

theorem get?_of_mem {entry : String × α} (hnodup : (entries.map Prod.fst).Nodup)
    (h : entry ∈ entries) : get? entry.1 entries = some entry.2 := by
  cases hget : get? entry.1 entries with
  | none => exact absurd (List.mem_map_of_mem h) (get?_eq_none_iff.1 hget)
  | some v => rw [← List.inj_on_of_nodup_map hnodup (mem_of_get? hget) h rfl]

theorem get?_eq_some_iff (hnodup : (entries.map Prod.fst).Nodup) :
    get? key entries = some value ↔ (key, value) ∈ entries :=
  ⟨mem_of_get?, get?_of_mem hnodup⟩

theorem get?_append (key : String) (first second : KeyMap α) :
    get? key (first ++ second) = (get? key first).or (get? key second) := by
  rw [get?, List.find?_append, Option.map_or]
  rfl

theorem get?_eq_some_iff_append {pairs : List (String × α)} :
    get? key pairs = some value ↔
      ∃ before after, pairs = before ++ (key, value) :: after ∧ key ∉ before.map Prod.fst := by
  constructor
  · intro h
    obtain ⟨entry, hfind, rfl⟩ := Option.map_eq_some_iff.1 h
    obtain ⟨hkey, before, after, hpairs, hbefore⟩ := List.find?_eq_some_iff_append.1 hfind
    obtain rfl : entry.1 = key := by simpa using hkey
    refine ⟨before, after, hpairs, fun hmem ↦ ?_⟩
    obtain ⟨earlier, hearlier, heq⟩ := List.mem_map.1 hmem
    simpa [heq] using hbefore earlier hearlier
  · rintro ⟨before, after, rfl, hbefore⟩
    rw [get?_append, get?_eq_none_iff.2 hbefore, Option.none_or, get?_cons, if_pos rfl]

/-! ## Equal maps -/

/-- **Extensionality.** Maps in key order are equal if they have the same entries. -/
theorem Ordered.eq_of_mem_iff (hfirst : first.Ordered) (hsecond : second.Ordered)
    (h : ∀ entry, entry ∈ first ↔ entry ∈ second) : first = second := by
  have hperm : first.Perm second :=
    (List.perm_ext_iff_of_nodup hfirst.nodup.of_map hsecond.nodup.of_map).2 h
  exact hperm.eq_of_pairwise (fun _ _ _ _ hlt hgt ↦ absurd hgt (String.lt_asymm hlt)) hfirst hsecond

theorem Ordered.eq_of_get?_eq (hfirst : first.Ordered) (hsecond : second.Ordered)
    (h : ∀ key, get? key first = get? key second) : first = second :=
  hfirst.eq_of_mem_iff hsecond fun entry ↦ by
    rw [← get?_eq_some_iff hfirst.nodup, ← get?_eq_some_iff hsecond.nodup, h]

/-! ## Entering pairs -/

/-- The second map, and of the first one what is under other keys. -/
def override (first second : KeyMap α) : KeyMap α :=
  second.foldl (fun entries entry ↦ insert entry.1 entry.2 entries) first

theorem Ordered.override (h : first.Ordered) (second : KeyMap α) :
    (override first second).Ordered := by
  induction second generalizing first with
  | nil => exact h
  | cons entry second ih => exact ih (h.insert entry.1 entry.2)

theorem get?_override_eq_reverse (key : String) (first second : KeyMap α) :
    get? key (override first second) = get? key (second.reverse ++ first) := by
  induction second generalizing first with
  | nil => rfl
  | cons entry second ih =>
    have hstep : override first (entry :: second) =
        override (insert entry.1 entry.2 first) second := rfl
    rw [hstep, ih, List.reverse_cons, List.append_assoc, List.singleton_append, get?_append,
      get?_append, get?_insert, get?_cons]

/-- **A map overridden** has under each key what the second map has there, else what it had. -/
theorem get?_override (key : String) (first : KeyMap α) (hsecond : second.Ordered) :
    get? key (override first second) = (get? key second).or (get? key first) := by
  have hreverse : get? key second.reverse = get? key second := by
    refine Option.ext fun value ↦ ?_
    rw [get?_eq_some_iff (by simpa using hsecond.nodup), get?_eq_some_iff hsecond.nodup,
      List.mem_reverse]
  rw [get?_override_eq_reverse, get?_append, hreverse]

theorem get?_ofList (key : String) (pairs : List (String × α)) :
    get? key (ofList pairs) = get? key pairs.reverse := by
  have h := get?_override_eq_reverse key [] pairs
  rwa [List.append_nil] at h

/-- **The entries of a map** are the last pairs with their keys. -/
theorem mem_ofList {pairs : List (String × α)} : (key, value) ∈ ofList pairs ↔
    ∃ before after, pairs = before ++ (key, value) :: after ∧ key ∉ after.map Prod.fst := by
  rw [← get?_eq_some_iff (ofList_ordered pairs).1.nodup, get?_ofList, get?_eq_some_iff_append]
  constructor
  · rintro ⟨after, before, hpairs, hkey⟩
    refine ⟨before.reverse, after.reverse, ?_, by simpa using hkey⟩
    simpa using congrArg List.reverse hpairs
  · rintro ⟨before, after, rfl, hkey⟩
    exact ⟨after.reverse, before.reverse, by simp, by simpa using hkey⟩

theorem mem_keys_ofList {pairs : List (String × α)} :
    key ∈ (ofList pairs).map Prod.fst ↔ key ∈ pairs.map Prod.fst := by
  rw [← not_iff_not, ← get?_eq_none_iff, get?_ofList, get?_eq_none_iff, List.map_reverse,
    List.mem_reverse]

theorem Ordered.ofList_eq (h : entries.Ordered) : ofList entries = entries :=
  (ofList_ordered entries).1.eq_of_mem_iff h fun _ ↦ (ofList_perm h.nodup).mem_iff

/-- **Pairs in two goes.** -/
theorem ofList_append (pairs later : List (String × α)) :
    ofList (pairs ++ later) = override (ofList pairs) (ofList later) := by
  have hlater := (ofList_ordered later).1
  refine (ofList_ordered _).1.eq_of_get?_eq ((ofList_ordered pairs).1.override _) fun key ↦ ?_
  rw [get?_override key _ hlater, get?_ofList, get?_ofList, get?_ofList, List.reverse_append,
    get?_append]

end MonitorCore.Text.KeyMap

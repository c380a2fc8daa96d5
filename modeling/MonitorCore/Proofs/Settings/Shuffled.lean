import MonitorCore.Proofs.Settings.Distinct
import MonitorCore.Proofs.Settings.Fields

/-!
# Shuffled documents

No table has a key twice, so what is found under a key does not depend on the order of the members:
it is the same part of the document, shuffled itself (`lookup_shuffled`). A part that is no table
has nothing to shuffle, and a table converts to no field of logging; so as settings the two are
alike (`alike_placed_shuffled`).
-/

namespace MonitorCore

namespace Document

variable {members : List (String × Document)}

theorem shuffledMembers_eq_map (shuffle : List String → Shuffle (String × Document))
    (keys : List String) (members : List (String × Document)) :
    shuffledMembers shuffle keys members =
      members.map fun member ↦ (member.1, shuffled shuffle (keys ++ [member.1]) member.2) := by
  induction members with
  | nil => rfl
  | cons member members ih => rw [shuffledMembers, ih, List.map_cons]

theorem keys_shuffledMembers (shuffle : List String → Shuffle (String × Document))
    (keys : List String) (members : List (String × Document)) :
    (shuffledMembers shuffle keys members).map Prod.fst = members.map Prod.fst := by
  rw [shuffledMembers_eq_map, List.map_map]
  rfl

theorem lookup_shuffledMembers (shuffle : List String → Shuffle (String × Document))
    (keys : List String) (members : List (String × Document)) (key : String) :
    (shuffledMembers shuffle keys members).lookup key =
      (members.lookup key).map (shuffled shuffle (keys ++ [key])) := by
  induction members with
  | nil => rfl
  | cons member members ih =>
    obtain ⟨k, document⟩ := member
    rw [shuffledMembers, List.lookup_cons, List.lookup_cons, ih]
    by_cases hkey : key = k
    · rw [hkey, beq_self_eq_true]
      rfl
    · rw [beq_false_of_ne hkey]

/-- **Under a key** the shuffled table has what the table has, shuffled. -/
theorem lookup_shuffled (h : (members.map Prod.fst).Nodup)
    (shuffle : List String → Shuffle (String × Document)) (keys : List String) (key : String) :
    (shuffled shuffle keys (.table members)).root.lookup key =
      (members.lookup key).map (shuffled shuffle (keys ++ [key])) := by
  have hnodup : ((shuffledMembers shuffle keys members).map Prod.fst).Nodup := by
    rwa [keys_shuffledMembers]
  have hperm := (shuffle keys).perm (shuffledMembers shuffle keys members)
  rw [shuffled, root, lookup_perm hnodup hperm.symm, lookup_shuffledMembers]

theorem keys_shuffled (shuffle : List String → Shuffle (String × Document)) (keys : List String)
    (members : List (String × Document)) :
    ((shuffled shuffle keys (.table members)).root.map Prod.fst).Perm (members.map Prod.fst) := by
  rw [shuffled, root, ← keys_shuffledMembers shuffle keys members]
  exact ((shuffle keys).perm _).map Prod.fst

end Document

namespace Setting

open Document (shuffled)

/-- **As settings** a document and the shuffled one are alike. -/
theorem alike_placed_shuffled (origin : String)
    (shuffle : List String → Shuffle (String × Document)) (keys : List String)
    (document : Document) :
    Alike (placed origin (shuffled shuffle keys document)) (placed origin document) := by
  cases document with
  | scalar value => exact .refl _
  | list items => exact .refl _
  | table members =>
    have htable : ∀ members, ∃ merged, placed origin (.table members) = .table none merged :=
      fun members ↦ exists_mergeMembers_table none [] (ofMembers origin members)
    obtain ⟨merged, hmerged⟩ := htable members
    obtain ⟨merged', hmerged'⟩ := htable
      ((shuffle keys).apply (Document.shuffledMembers shuffle keys members))
    rw [shuffled, hmerged, hmerged']
    exact alike_table none merged' merged

end Setting

end MonitorCore

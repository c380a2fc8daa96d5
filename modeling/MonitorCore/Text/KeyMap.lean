/-!
# Maps in key order

A map from texts is the list of its entries by increasing key, keys being compared code point by
code point (which is also the order of their UTF-8 bytes). Such a list shows its map: equal maps
are equal lists, and a map is written out by walking over its list.
-/

namespace MonitorCore.Text

/-- The entries of a map, by increasing key. -/
abbrev KeyMap (α : Type) := List (String × α)

namespace KeyMap

variable {α : Type}

/-- Enters `value` under `key`, in place of what was there. -/
def insert (key : String) (value : α) : KeyMap α → KeyMap α
  | [] => [(key, value)]
  | (k, v) :: rest =>
    if key < k then (key, value) :: (k, v) :: rest
    else if key = k then (key, value) :: rest
    else (k, v) :: insert key value rest

/-- The map that results from entering the pairs one after the other: of two pairs with the same key
the later one stays. -/
def ofList (pairs : List (String × α)) : KeyMap α :=
  pairs.foldl (fun entries pair ↦ insert pair.1 pair.2 entries) []

def get? (key : String) (entries : KeyMap α) : Option α :=
  (List.find? (fun entry ↦ entry.1 == key) entries).map (·.2)

@[simp] theorem get?_nil (key : String) : get? key ([] : KeyMap α) = none := rfl

theorem get?_cons (key : String) (entry : String × α) (rest : KeyMap α) :
    get? key (entry :: rest) = if entry.1 = key then some entry.2 else get? key rest := by
  by_cases h : entry.1 = key <;> simp [get?, h]

/-- Entering a value changes what is under its key, and nothing else. -/
theorem get?_insert (key other : String) (value : α) (entries : KeyMap α) :
    get? other (insert key value entries) =
      if key = other then some value else get? other entries := by
  induction entries with
  | nil => simp [insert, get?_cons]
  | cons entry rest ih =>
    rw [insert]
    split
    · rw [get?_cons]
    · split
      · next h => rw [get?_cons, get?_cons, ← h]; split <;> rfl
      · next h =>
        rw [get?_cons, get?_cons, ih]
        by_cases hk : entry.1 = other
        · have hne : key ≠ other := fun hko ↦ h (hko.trans hk.symm)
          simp [hk, hne]
        · simp [hk]

/-! ## Pairs without repeated keys -/

theorem ne_of_not_mem_keys {key : String} {pairs : List (String × α)}
    (h : key ∉ pairs.map Prod.fst) {pair : String × α} (hpair : pair ∈ pairs) : pair.1 ≠ key := by
  rintro rfl
  exact h (List.mem_map_of_mem hpair)

theorem insert_perm {key : String} {entries : KeyMap α} (value : α)
    (h : key ∉ entries.map Prod.fst) :
    (insert key value entries).Perm ((key, value) :: entries) := by
  induction entries with
  | nil => exact .refl _
  | cons entry rest ih =>
    rw [List.map_cons, List.mem_cons, not_or] at h
    rw [insert]
    split
    · exact .refl _
    · rw [if_neg h.1]
      exact ((ih h.2).cons entry).trans (.swap ..)

/-- A map has the pairs it results from, if none of them repeats a key. -/
theorem ofList_perm {pairs : List (String × α)} (h : (pairs.map Prod.fst).Nodup) :
    (ofList pairs).Perm pairs := by
  suffices hacc : ∀ entries : KeyMap α, ((pairs ++ entries).map Prod.fst).Nodup →
      (pairs.foldl (fun entries pair ↦ insert pair.1 pair.2 entries) entries).Perm
        (pairs ++ entries) by
    simpa [ofList] using hacc [] (by simpa using h)
  clear h
  induction pairs with
  | nil => exact fun entries _ ↦ .refl entries
  | cons pair pairs ih =>
    intro entries h
    rw [List.cons_append, List.map_cons, List.nodup_cons, List.map_append, List.mem_append,
      not_or] at h
    have hinsert := insert_perm pair.2 h.1.2
    have hmiddle : (pairs ++ insert pair.1 pair.2 entries).Perm (pair :: (pairs ++ entries)) :=
      (hinsert.append_left pairs).trans List.perm_middle
    refine (ih _ ((hmiddle.map Prod.fst).nodup_iff.2 ?_)).trans hmiddle
    rw [List.map_cons, List.nodup_cons, List.map_append, List.mem_append, not_or]
    exact h

/-! ## The order of the keys -/

/-- The keys increase. -/
def Ordered (entries : KeyMap α) : Prop := entries.Pairwise fun a b ↦ a.1 < b.1

theorem mem_insert {key : String} {value : α} {entry : String × α} {entries : KeyMap α}
    (h : entry ∈ insert key value entries) : entry = (key, value) ∨ entry ∈ entries := by
  induction entries with
  | nil => simpa [insert] using h
  | cons first rest ih =>
    rw [insert] at h
    split at h
    · exact List.mem_cons.1 h
    · split at h
      · exact (List.mem_cons.1 h).imp_right (List.mem_cons_of_mem _)
      · rcases List.mem_cons.1 h with rfl | h
        · exact .inr (.head _)
        · exact (ih h).imp_right (List.mem_cons_of_mem _)

theorem Ordered.insert {entries : KeyMap α} (h : Ordered entries) (key : String) (value : α) :
    Ordered (insert key value entries) := by
  induction entries with
  | nil => exact List.pairwise_singleton _ _
  | cons first rest ih =>
    obtain ⟨hfirst, hrest⟩ := List.pairwise_cons.1 h
    rw [KeyMap.insert]
    split
    · next hlt =>
      refine List.pairwise_cons.2 ⟨List.forall_mem_cons.2 ⟨hlt, fun entry hentry ↦ ?_⟩, h⟩
      exact String.lt_trans hlt (hfirst entry hentry)
    · next hge =>
      split
      · next heq => exact List.pairwise_cons.2 ⟨heq ▸ hfirst, hrest⟩
      · next hne =>
        refine List.pairwise_cons.2 ⟨fun entry hentry ↦ ?_, ih hrest⟩
        rcases mem_insert hentry with rfl | hentry
        · exact Std.lt_of_le_of_ne (String.not_lt.1 hge) (Ne.symm hne)
        · exact hfirst entry hentry

/-- The map has its keys in order, and of the pairs it results from there are no others in it. -/
theorem ofList_ordered (pairs : List (String × α)) :
    Ordered (ofList pairs) ∧ ∀ entry ∈ ofList pairs, entry ∈ pairs := by
  suffices hacc : ∀ entries : KeyMap α, Ordered entries →
      Ordered (pairs.foldl (fun entries pair ↦ KeyMap.insert pair.1 pair.2 entries) entries) ∧
        ∀ entry ∈ pairs.foldl (fun entries pair ↦ KeyMap.insert pair.1 pair.2 entries) entries,
          entry ∈ pairs ∨ entry ∈ entries by
    obtain ⟨hordered, hmem⟩ := hacc [] .nil
    exact ⟨hordered, fun entry hentry ↦ (hmem entry hentry).resolve_right List.not_mem_nil⟩
  induction pairs with
  | nil => exact fun entries h ↦ ⟨h, fun entry hentry ↦ .inr hentry⟩
  | cons pair pairs ih =>
    intro entries h
    obtain ⟨hordered, hmem⟩ := ih _ (h.insert pair.1 pair.2)
    refine ⟨hordered, fun entry hentry ↦ ?_⟩
    rcases hmem entry hentry with hentry | hentry
    · exact .inl (.tail _ hentry)
    · rcases mem_insert hentry with rfl | hentry
      · exact .inl (.head _)
      · exact .inr hentry

/-- Keys in order do not repeat. -/
theorem Ordered.nodup {entries : KeyMap α} (h : Ordered entries) :
    (entries.map Prod.fst).Nodup := by
  refine List.pairwise_map.2 (List.Pairwise.imp (fun {first second} hlt heq ↦ ?_) h)
  exact String.lt_irrefl _ (heq ▸ hlt)

end KeyMap

end MonitorCore.Text

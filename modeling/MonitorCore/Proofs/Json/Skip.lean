import MonitorCore.Proofs.Json.Shape

/-!
# Skipped values

A member that no field asks for is passed over without being built. Skipping looks at less than
building does, neither at the value of a number nor at the halves of characters, and it may go
deeper. So it passes every value that can be built, and ends where the value ends
(`skipValue_of_readValue`).
-/

namespace MonitorCore.Json

variable {depth : Nat} {cs rest : List Char} {v : Value}

/-- One character of fuel is enough for each level, since each level takes a character. -/
theorem skipNested_of_readValue {fuel : List Char} (h : readValue depth cs = .ok (v, rest))
    (hfuel : cs.length ≤ fuel.length) : skipNested fuel cs = .ok ((), rest) := by
  induction fuel generalizing depth cs v rest with
  | nil =>
    have hlt := shrinks_value _ _ _ _ h
    rw [List.length_nil] at hfuel
    omega
  | cons _ fuel ih =>
    have hle := Nat.le_trans (length_skipGaps_le cs) hfuel
    have hshape := shape_of_readValue h
    rw [skipNested]
    generalize skipGaps cs = text at hle hshape
    cases hshape with
    | null => rfl
    | yes => rfl
    | no => rfl
    | number hc hn =>
      obtain ⟨numeral, hnumeral, -⟩ := readNumber_eq_ok.1 hn
      have hbracket := ne_of_startsNumber hc (rfl : startsNumber '[' = false)
      have hbrace := ne_of_startsNumber hc (rfl : startsNumber '{' = false)
      have hquote := ne_of_startsNumber hc (rfl : startsNumber '"' = false)
      simp only [if_neg hbracket, if_neg hbrace, if_neg hquote, if_pos hc, hnumeral, Reading.map_ok]
    | text hs =>
      obtain ⟨units, hunits, -⟩ := readString_eq_ok.1 hs
      simp [hunits]
    | @array depth _ _ _ hitems =>
      simp only [List.length_cons, Nat.add_le_add_iff_right] at hle
      have hshrinks := shrinks_value depth
      exact (hitems.within hshrinks hle).foldAll_unit (fun _ _ _ hv ↦ hshrinks _ _ _ hv.1)
        fun cs v rest hv ↦ ih hv.1 hv.2
    | @object depth _ _ _ hmembers =>
      simp only [List.length_cons, Nat.add_le_add_iff_right] at hle
      have hshrinks := shrinks_entry depth
      refine (hmembers.within hshrinks hle).foldAll_unit (fun _ _ _ hm ↦ hshrinks _ _ _ hm.1)
        fun cs member rest ⟨hm, hcs⟩ ↦ ?_
      obtain ⟨tail, mid, next, rfl, hkey, hmark, hv⟩ := readEntry_eq_ok.1 hm
      obtain ⟨units, hunits, -⟩ := readString_eq_ok.1 hkey
      have hmid := length_lt_of_readUnits hunits
      have hnext := length_lt_of_expectMark hmark
      rw [List.length_cons] at hcs
      have hquote : expectMark '"' ('"' :: tail) = .ok ((), tail) := rfl
      simp only [hquote, Reading.andThen_ok, hunits, hmark]
      exact ih hv (by omega)

/-- **A value that can be built can be skipped**, and both end at the same place. -/
theorem skipValue_of_readValue (h : readValue depth cs = .ok (v, rest)) :
    skipValue cs = .ok ((), rest) :=
  skipNested_of_readValue h (Nat.le_refl _)

end MonitorCore.Json

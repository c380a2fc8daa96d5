import Mathlib.Data.List.Infix

/-!
# Splitting at a separator

A joined text splits at its separator into the texts that were joined, if each of them is *closed*
by the separator (`Closes`): the separator behind the text is the first one in it. It is not enough
that the separator is no part of any text, for it may also come to stand across the end of one.
-/

namespace MonitorCore.Text

open String.Slice.Pattern.Model (split StrictPatternModel MatchesAt split_endPos
  split_eq_next_of_not_matchesAt split_eq_of_isLongestMatchAt)
open String.Slice.Pattern.Model.ForwardStringSearcher (matchesAt_iff_splits
  isLongestMatchAt_iff_splits strictPatternModel lawfulToForwardSearcherModel)

/-- The parts of a text between the separators in it. -/
def partsOf (sep text : String) : List String := (text.split sep).toList.map String.Slice.copy

/-- A separator closes a text if, written behind the text, it stands nowhere before. -/
def Closes (sep text : String) : Prop :=
  ∀ before after, text ++ sep = before ++ sep ++ after → after = ""

variable {sep text rest : String}

/-! ## Closed texts -/

/-- No other separator begins inside a closed text. -/
theorem Closes.ne_append {cs before after : List Char} {c : Char}
    (h : Closes sep (String.ofList cs)) (hcs : cs = before ++ c :: after) (rest tail : String) :
    String.ofList (c :: after) ++ (sep ++ rest) ≠ sep ++ tail := by
  intro heq
  have hlist : c :: after ++ sep.toList ++ rest.toList = sep.toList ++ tail.toList := by
    simpa using congrArg String.toList heq
  obtain ⟨more, hmore⟩ : sep.toList <+: c :: after ++ sep.toList :=
    List.prefix_of_prefix_length_le ⟨tail.toList, hlist.symm⟩ ⟨rest.toList, rfl⟩
      (by rw [List.length_append]; omega)
  have hnil : String.ofList more = "" :=
    h (String.ofList before) (String.ofList more) (String.toList_inj.1 (by simp [hcs, hmore]))
  have hlength := congrArg List.length hmore
  rw [String.ofList_eq_empty_iff.1 hnil] at hlength
  simp at hlength
  omega

theorem closes_of_contains_eq_false {a b : Char} (hne : a ≠ b)
    (h : text.contains (String.ofList [a, b]) = false) : Closes (String.ofList [a, b]) text := by
  rw [String.contains_string_eq_false_iff, String.toList_ofList] at h
  intro before after heq
  have hlist : text.toList ++ [a, b] = before.toList ++ [a, b] ++ after.toList := by
    simpa using congrArg String.toList heq
  -- The second separator begins in the text, or it overlaps the last one.
  rcases List.append_eq_append_iff.1 hlist with ⟨common, hcommon, hafter⟩ | ⟨common, htext, -⟩
  · rcases common with _ | ⟨c, _ | ⟨d, common⟩⟩
    · exact absurd ⟨before.toList, [], by simpa using hcommon⟩ h
    · have hcross : before.toList ++ [a] ++ [b] = text.toList ++ [c] := by simpa using hcommon
      obtain ⟨rfl, -⟩ := List.cons_eq_cons.1 hafter
      exact absurd (List.append_inj_right' hcross rfl) (by simp [hne.symm])
    · obtain ⟨-, -, -, hnil⟩ : a = c ∧ b = d ∧ common = [] ∧ after = "" := by simpa using hafter
      exact hnil
  · exact absurd ⟨before.toList, common, htext.symm⟩ h

/-! ## The model of splitting -/

section

variable {s : String.Slice} {first pos next : s.Pos} {front : String} [StrictPatternModel sep]

theorem split_skip {cs : List Char} (hpos : pos.Splits front (String.ofList cs ++ rest))
    (hle : first ≤ pos)
    (hnone : ∀ before c after, cs = before ++ c :: after →
      ∀ tail, String.ofList (c :: after) ++ rest ≠ sep ++ tail) :
    ∃ (next : s.Pos) (hnext : first ≤ next), next.Splits (front ++ String.ofList cs) rest ∧
      split sep first pos hle = split sep first next hnext := by
  induction cs generalizing front pos with
  | nil => exact ⟨pos, hle, by simpa using hpos, rfl⟩
  | cons c cs ih =>
    have hcons : pos.Splits front (String.singleton c ++ (String.ofList cs ++ rest)) := by
      rwa [String.ofList_cons, String.append_assoc] at hpos
    have hend := hcons.ne_endPos_of_singleton
    have hno : ¬MatchesAt sep pos := by
      rw [matchesAt_iff_splits]
      rintro ⟨before, tail, h⟩
      exact hnone [] c cs rfl tail (hpos.eq_right h)
    have hlt : pos < pos.next hend := String.Slice.Pos.lt_next
    obtain ⟨next, hnext, hsplits, heq⟩ := ih hcons.next (Std.le_trans hle (Std.le_of_lt hlt))
      fun before d after hcs ↦ hnone (c :: before) d after (congrArg (c :: ·) hcs)
    rw [split_eq_next_of_not_matchesAt hend hno]
    refine ⟨next, hnext, ?_, heq⟩
    rwa [String.append_assoc, ← String.ofList_cons] at hsplits

theorem copy_subslice (hfirst : first.Splits front (text ++ rest))
    (hnext : next.Splits (front ++ text) rest) (hle : first ≤ next) :
    (s.subslice first next hle).copy = text := by
  obtain ⟨_, hcopy⟩ := String.Slice.copy_slice_eq_iff_splits.2 ⟨front, rest, hfirst, hnext⟩
  exact hcopy

theorem map_copy_split_last (hcloses : Closes sep text) (hfirst : first.Splits front text) :
    (split sep first first (Std.le_refl first)).map String.Slice.Subslice.copy = [text] := by
  obtain ⟨cs, rfl⟩ : ∃ cs, text = String.ofList cs := ⟨text.toList, String.ofList_toList.symm⟩
  rw [← String.append_empty (s := String.ofList cs)] at hfirst
  obtain ⟨next, hle, hnext, heq⟩ := split_skip hfirst (Std.le_refl first)
    fun before c after hcs tail htail ↦ by
      rw [String.append_empty] at htail
      refine hcloses.ne_append hcs "" (tail ++ sep) ?_
      rw [String.append_empty, htail, String.append_assoc]
  rw [heq]
  obtain rfl : next = s.endPos := hnext.eq_endPos_iff.2 rfl
  rw [split_endPos, List.map_singleton, copy_subslice hfirst hnext]

/-- A closed text before a separator is a part, and splitting goes on behind the separator. -/
theorem map_copy_split_cons (hcloses : Closes sep text)
    (hfirst : first.Splits front (text ++ (sep ++ rest))) :
    ∃ next : s.Pos, next.Splits (front ++ text ++ sep) rest ∧
      (split sep first first (Std.le_refl first)).map String.Slice.Subslice.copy =
        text :: (split sep next next (Std.le_refl next)).map String.Slice.Subslice.copy := by
  obtain ⟨cs, rfl⟩ : ∃ cs, text = String.ofList cs := ⟨text.toList, String.ofList_toList.symm⟩
  obtain ⟨stop, hle, hstop, heq⟩ := split_skip hfirst (Std.le_refl first)
    fun before c after hcs tail ↦ hcloses.ne_append hcs rest tail
  have hcopy : s.copy = front ++ String.ofList cs ++ sep ++ rest := by
    simp only [hstop.eq_append, String.append_assoc]
  have hnext := String.Slice.Pos.splits_ofEqAppend hcopy
  refine ⟨_, hnext, ?_⟩
  rw [heq, split_eq_of_isLongestMatchAt (isLongestMatchAt_iff_splits.2 ⟨_, _, hstop, hnext⟩),
    List.map_cons, copy_subslice hfirst hstop]

theorem map_copy_split {texts : List String} (hne : texts ≠ [])
    (hcloses : ∀ text ∈ texts, Closes sep text)
    (hfirst : first.Splits front (sep.intercalate texts)) :
    (split sep first first (Std.le_refl first)).map String.Slice.Subslice.copy = texts := by
  induction texts generalizing first front with
  | nil => exact absurd rfl hne
  | cons text texts ih =>
    rw [List.forall_mem_cons] at hcloses
    cases texts with
    | nil =>
      rw [String.intercalate_singleton] at hfirst
      exact map_copy_split_last hcloses.1 hfirst
    | cons text' texts =>
      rw [String.intercalate_cons_cons, String.append_assoc] at hfirst
      obtain ⟨next, hnext, heq⟩ := map_copy_split_cons hcloses.1 hfirst
      rw [heq, ih (List.cons_ne_nil _ _) hcloses.2 hnext]

end

/-! ## Joined texts -/

/-- **Splitting** undoes joining. -/
theorem partsOf_intercalate {texts : List String} (hsep : sep ≠ "") (hne : texts ≠ [])
    (hcloses : ∀ text ∈ texts, Closes sep text) :
    partsOf sep (sep.intercalate texts) = texts := by
  have hstart : (sep.intercalate texts).toSlice.startPos.Splits "" (sep.intercalate texts) := by
    rw [String.Slice.splits_startPos_iff]
    simp
  have := strictPatternModel hsep
  have := lawfulToForwardSearcherModel hsep
  rw [partsOf, String.split_eq_split_toSlice, String.Slice.toList_split_eq_splitToSubslice,
    String.Slice.Pattern.toList_splitToSubslice_eq_modelSplit, List.map_map,
    ← String.Slice.Subslice.copy_eq]
  exact map_copy_split hne hcloses hstart

end MonitorCore.Text

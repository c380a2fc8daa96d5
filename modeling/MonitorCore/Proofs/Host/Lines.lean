import MonitorCore.Host.FileTree
import MonitorCore.Proofs.Text.LineEnds

/-!
# The lines of a log

A line end follows each record of a log. The lines of a log are therefore those of its records, one
after the other (`textLines_logText`): a further record adds lines behind the others and changes
none of them. How many it adds is told by the line ends in it (`length_textLines`).
-/

namespace MonitorCore

open Text (lineEnds)

namespace Content

/-! ## Pieces -/

section Pieces

variable {α : Type} [BEq α] [LawfulBEq α] {lineEnd : α} {cs ds first : List α} {ended : Bool}
  {rest : List (List α × Bool)}

theorem pieces_append_of_notMem (h : lineEnd ∉ cs)
    (hpieces : pieces lineEnd ds = (first, ended) :: rest) :
    pieces lineEnd (cs ++ ds) = (cs ++ first, ended) :: rest := by
  induction cs with
  | nil => exact hpieces
  | cons c cs ih =>
    rw [List.mem_cons, not_or] at h
    have hc : (c == lineEnd) = false := beq_false_of_ne (Ne.symm h.1)
    rw [List.cons_append, pieces, hc, ih h.2]
    rfl

/-- A line end closes one piece, and each one before it another. -/
theorem length_pieces (lineEnd : α) (cs : List α) :
    (pieces lineEnd (cs ++ [lineEnd])).length = cs.count lineEnd + 1 := by
  induction cs with
  | nil => simp [pieces]
  | cons c cs ih =>
    rw [List.cons_append, pieces, List.count_cons]
    cases c == lineEnd with
    | true => simp [ih]
    | false =>
      cases hfront : pieces lineEnd (cs ++ [lineEnd]) with
      | nil => simp [hfront] at ih
      | cons piece rest => simpa [hfront] using ih

theorem pieces_append_lineEnd (lineEnd : α) (cs ds : List α) :
    pieces lineEnd (cs ++ lineEnd :: ds) =
      pieces lineEnd (cs ++ [lineEnd]) ++ pieces lineEnd ds := by
  induction cs with
  | nil => simp [pieces]
  | cons c cs ih =>
    rw [List.cons_append, List.cons_append, pieces, pieces, ih]
    cases c == lineEnd with
    | true => rfl
    | false =>
      cases hfront : pieces lineEnd (cs ++ [lineEnd]) with
      | nil =>
        have hlength := length_pieces lineEnd cs
        rw [hfront] at hlength
        exact absurd hlength (by simp)
      | cons piece rest => rfl

end Pieces

/-! ## Lines -/

variable {s t first : String} {rest : List String}

theorem textLines_eq_map (s : String) : textLines s =
    (pieces '\n' s.toList).map fun piece ↦ lineOf piece.2 (String.ofList piece.1) := rfl

theorem length_textLines (s : String) : (textLines (s ++ "\n")).length = lineEnds s + 1 := by
  rw [textLines_eq_map, List.length_map, String.toList_append]
  exact length_pieces '\n' s.toList

theorem textLines_append_lineEnd (s t : String) :
    textLines (s ++ "\n" ++ t) = textLines (s ++ "\n") ++ textLines t := by
  have hpieces := pieces_append_lineEnd '\n' s.toList t.toList
  rw [textLines_eq_map, textLines_eq_map, textLines_eq_map, ← List.map_append,
    String.toList_append, String.toList_append, List.append_assoc]
  exact congrArg _ hpieces

/-- Without carriage returns a text stays as it is in front of a line. -/
theorem withoutReturn_append (h : '\r' ∉ s.toList) (t : String) :
    withoutReturn (s ++ t) = s ++ withoutReturn t := by
  rcases List.eq_nil_or_concat t.toList with hnil | ⟨front, c, hconcat⟩
  · obtain rfl : t = "" := String.toList_eq_nil_iff.1 hnil
    rw [String.append_empty, withoutReturn]
    split
    · next last hreverse =>
      have hmem : '\r' ∈ s.toList.reverse := by simp [hreverse]
      exact absurd (List.mem_reverse.1 hmem) h
    · exact String.append_empty.symm
  · have hreverse : t.toList.reverse = c :: front.reverse := by simp [hconcat]
    have hall : (s ++ t).toList.reverse = c :: (front.reverse ++ s.toList.reverse) := by
      simp [hreverse]
    rw [withoutReturn, withoutReturn, hreverse, hall]
    by_cases hc : c = '\r'
    · subst hc
      simp
    · simp [hc]

theorem lineOf_append (h : '\r' ∉ s.toList) (ended : Bool) (t : String) :
    lineOf ended (s ++ t) = s ++ lineOf ended t := by
  cases ended with
  | true => exact withoutReturn_append h t
  | false => rfl

/-- What stands in front of a text and has no line end goes into the first line. -/
theorem textLines_append_of_notMem (hend : '\n' ∉ s.toList) (hreturn : '\r' ∉ s.toList)
    (ht : textLines t = first :: rest) : textLines (s ++ t) = (s ++ first) :: rest := by
  rw [textLines_eq_map] at ht ⊢
  obtain ⟨piece, more, hpieces, hfirst, hrest⟩ := List.map_eq_cons_iff.1 ht
  rw [String.toList_append, pieces_append_of_notMem hend hpieces, List.map_cons, hrest]
  dsimp only
  rw [String.ofList_append, String.ofList_toList, lineOf_append hreturn, hfirst]

theorem textLines_of_notMem (hend : '\n' ∉ s.toList) (hreturn : '\r' ∉ s.toList) :
    textLines (s ++ "\n") = [s] := by
  have hempty : textLines "\n" = [""] := by decide
  rw [textLines_append_of_notMem hend hreturn hempty, String.append_empty]

/-! ## Logs -/

/-- **The lines of a log** are those of its records. -/
theorem textLines_logText (records : List String) :
    textLines (logText records) = records.flatMap fun record ↦ textLines (record ++ "\n") := by
  induction records with
  | nil => rfl
  | cons record records ih =>
    have hcons : logText (record :: records) = record ++ "\n" ++ logText records := by
      simp [logText]
    rw [hcons, textLines_append_lineEnd, ih, List.flatMap_cons]

theorem textLines_logText_append (records : List String) (record : String) :
    textLines (logText (records ++ [record])) =
      textLines (logText records) ++ textLines (record ++ "\n") := by
  rw [textLines_logText, textLines_logText, List.flatMap_append, List.flatMap_singleton]

end Content

end MonitorCore

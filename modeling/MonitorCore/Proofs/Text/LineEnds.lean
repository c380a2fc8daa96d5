import Mathlib.Algebra.Order.Ring.Nat

/-!
# Line ends in texts

How many lines a text takes is told by the line ends in it. Each part of a joined text takes lines
of its own, and as many separators as there are parts, but for one, take theirs
(`lineEnds_intercalate_add`).
-/

namespace MonitorCore.Text

def lineEnds (s : String) : Nat := s.toList.count '\n'

variable {s t : String} {cs : List Char}

@[simp] theorem lineEnds_append : lineEnds (s ++ t) = lineEnds s + lineEnds t := by
  rw [lineEnds, String.toList_append, List.count_append, ← lineEnds, ← lineEnds]

theorem lineEnds_ofList : lineEnds (String.ofList cs) = cs.count '\n' := by
  rw [lineEnds, String.toList_ofList]

theorem lineEnds_eq_zero_iff : lineEnds s = 0 ↔ '\n' ∉ s.toList := List.count_eq_zero

/-- **Joined texts.** With a separator behind the last text, each text has one of its own. -/
theorem lineEnds_intercalate_add (sep : String) {texts : List String} (hne : texts ≠ []) :
    lineEnds (sep.intercalate texts) + lineEnds sep =
      (texts.map fun text ↦ lineEnds text + lineEnds sep).sum := by
  induction texts with
  | nil => exact absurd rfl hne
  | cons text texts ih =>
    cases texts with
    | nil => simp
    | cons next texts =>
      rw [String.intercalate_cons_cons, lineEnds_append, lineEnds_append, Nat.add_assoc,
        ih (List.cons_ne_nil next texts)]
      simp only [List.map_cons, List.sum_cons]

end MonitorCore.Text

import MonitorCore.Json.Printer

/-!
# Printed values stand in one line

No control character below U+0020 gets into a compact text: strings escape them, and everything else
is written in letters, digits and marks. A compact text has no line end, so each record of a JSON
console is one line, whatever its strings are.
-/

namespace MonitorCore.Json

open MonitorCore.Decimal (Binary64 Digits Layout shortest)

variable {cs ds : List Char}

/-- There is no control character below U+0020 in the text. -/
def Visible (cs : List Char) : Prop := ∀ c ∈ cs, 0x20 ≤ c.toNat

@[simp] theorem visible_nil : Visible [] := List.forall_mem_nil _

@[simp] theorem visible_cons {c : Char} : Visible (c :: cs) ↔ 0x20 ≤ c.toNat ∧ Visible cs :=
  List.forall_mem_cons

@[simp] theorem visible_append : Visible (cs ++ ds) ↔ Visible cs ∧ Visible ds :=
  List.forall_mem_append

@[simp] theorem visible_replicate {c : Char} {n : Nat} :
    Visible (List.replicate n c) ↔ n = 0 ∨ 0x20 ≤ c.toNat :=
  List.forall_mem_replicate

theorem visible_flatMap {f : Char → List Char} (h : ∀ c, Visible (f c)) (cs : List Char) :
    Visible (cs.flatMap f) := fun d hd ↦ by
  obtain ⟨c, -, hmem⟩ := List.mem_flatMap.1 hd
  exact h c d hmem

theorem Visible.notMem (h : Visible cs) {c : Char} (hc : c.toNat < 0x20) : c ∉ cs := fun hmem ↦
  Nat.not_le_of_lt hc (h c hmem)

theorem Visible.subset (h : Visible cs) (hsub : ds ⊆ cs) : Visible ds := fun c hc ↦ h c (hsub hc)

/-! ## Numbers -/

theorem le_toNat_digitChar (n : Nat) : 0x20 ≤ n.digitChar.toNat := by
  have hall : ∀ n < 16, 0x20 ≤ n.digitChar.toNat := by decide
  rcases Nat.lt_or_ge n 16 with hlt | hge
  · exact hall n hlt
  · rw [Nat.digitChar_eq_star.2 hge]
    decide

theorem visible_toDigits {base : Nat} (hbase : 1 < base) (n : Nat) :
    Visible (Nat.toDigits base n) := by
  induction n using Nat.strongRecOn with
  | _ n ih =>
    rw [Nat.toDigits_eq_if hbase]
    split
    · simp [le_toNat_digitChar]
    · have hlt : n / base < n := Nat.div_lt_self (by omega) hbase
      simp [le_toNat_digitChar, ih (n / base) hlt]

theorem visible_printInt (i : Int) : Visible (printInt i) := by
  rw [printInt]
  split <;> simp [visible_toDigits]

theorem visible_digits_of (factor : Nat) (power : Int) :
    Visible (Digits.of factor power).digits := by
  have hfactor : Visible (Nat.toDigits 10 factor) := visible_toDigits (by decide) factor
  refine hfactor.subset fun c hc ↦ ?_
  have hmem : c ∈ (Nat.toDigits 10 factor).reverse.dropWhile (· == '0') := by
    simpa [Digits.of] using hc
  exact List.mem_reverse.1 ((List.dropWhile_suffix _).subset hmem)

theorem visible_shortest (tieUp : Bool) (mantissa : Nat) (exponent : Int) :
    Visible (shortest tieUp mantissa exponent).digits := by
  rw [shortest]
  dsimp only
  generalize hfound : List.findSome? _ _ = found
  cases found with
  | none => simp
  | some d =>
    obtain ⟨n, -, hn⟩ := List.exists_of_findSome?_eq_some hfound
    obtain ⟨factor, -, rfl⟩ := Option.map_eq_some_iff.1 hn
    exact visible_digits_of _ _

theorem visible_positional {d : Digits} (h : Visible d.digits) (wholeShowsPoint : Bool) :
    Visible (d.positional wholeShowsPoint) := by
  have htake := h.subset (List.take_subset d.point.toNat d.digits)
  have hdrop := h.subset (List.drop_subset d.point.toNat d.digits)
  rw [Digits.positional]
  split
  · simp [h]
  · split
    · cases wholeShowsPoint <;> simp [h]
    · simp [htake, hdrop]

theorem visible_scientific {d : Digits} (h : Visible d.digits) : Visible d.scientific := by
  have htake := h.subset (List.take_subset 1 d.digits)
  have htail := h.subset (List.tail_sublist d.digits).subset
  rw [Digits.scientific]
  split <;> split <;> simp [htake, htail, visible_toDigits]

theorem visible_write_finite (layout : Layout) (negative : Bool) (mantissa : Nat) (exponent : Int) :
    Visible (layout.write (.finite negative mantissa exponent)).toList := by
  rw [Layout.write, String.toList_ofList]
  generalize hd : (if mantissa = 0 then _ else _ : Digits) = d
  have hdigits : Visible d.digits := by
    rw [← hd]
    split
    · simp
    · exact visible_shortest _ _ _
  have hpositional := visible_positional hdigits layout.wholeShowsPoint
  have hscientific := visible_scientific hdigits
  rcases layout.positional with _ | ⟨least, greatest⟩
  · cases negative <;> simp [hpositional]
  · cases negative <;> simp [apply_ite Visible, hpositional, hscientific]

theorem visible_printNumber (n : Number) : Visible n.print := by
  cases n with
  | integer i => exact visible_printInt i
  | float x =>
    cases x with
    | finite => exact visible_write_finite floatLayout _ _ _
    | nan => simp [Number.print]
    | infinite => simp [Number.print]

/-! ## Strings -/

theorem visible_escapeChar (c : Char) : Visible (escapeChar c) := by
  rw [escapeChar.eq_def]
  split
  case h_8 =>
    split
    · simp [hexPair, le_toNat_digitChar]
    · next hge => simpa using hge
  all_goals simp

theorem visible_printString (s : String) : Visible (printString s) := by
  simp [printString, visible_flatMap visible_escapeChar]

/-! ## Values -/

theorem visible_commaSeparated {items : List (List Char)} (h : ∀ item ∈ items, Visible item) :
    Visible (commaSeparated items) := by
  induction items with
  | nil => exact visible_nil
  | cons item items ih =>
    rw [List.forall_mem_cons] at h
    cases items with
    | nil => exact h.1
    | cons next items => simpa [commaSeparated, h.1] using ih h.2

namespace Value

mutual

/-- **A printed value** is visible throughout. -/
theorem visible_print : (v : Value) → Visible v.print
  | .null => by simp [print]
  | .bool true => by simp [print]
  | .bool false => by simp [print]
  | .number n => visible_printNumber n
  | .text s => visible_printString s
  | .array items => by
    simpa [print] using visible_commaSeparated (visible_printItems items)
  | .object members => by
    simpa [print] using visible_commaSeparated (visible_printMembers members)

theorem visible_printItems : (items : List Value) → ∀ item ∈ printItems items, Visible item
  | [] => List.forall_mem_nil _
  | v :: items => List.forall_mem_cons.2 ⟨visible_print v, visible_printItems items⟩

theorem visible_printMembers :
    (members : List (String × Value)) → ∀ item ∈ printMembers members, Visible item
  | [] => List.forall_mem_nil _
  | (key, v) :: members => by
    refine List.forall_mem_cons.2 ⟨?_, visible_printMembers members⟩
    simpa [visible_printString] using visible_print v

end

theorem visible_compact (v : Value) : Visible v.compact.toList := by
  rw [compact, String.toList_ofList]
  exact visible_print v

end Value

end MonitorCore.Json

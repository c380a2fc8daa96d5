import MonitorCore.Proofs.Json.Shape

/-!
# Printed strings and numbers read back

A string is written character by character, and each of these writes is read as one unit: the
character, or the number of a control character. A number is written without leading zeros, so its
digits are taken whole if no character follows that could belong to it.
-/

namespace MonitorCore.Json

open MonitorCore.Decimal (ofBase? wordLimit signedLimit)

variable {c : Char} {rest : List Char}

/-! ## Strings -/

/-- The unit stands for the character: it is the character, or the number of a control character. -/
def Denotes (unit : StringUnit) (c : Char) : Prop :=
  unit = .char c ∨ unit = .code c.toNat ∧ c.toNat < 0x20

theorem ofBase?_hexPair : ∀ n < 0x20, ofBase? 16 ('0' :: '0' :: hexPair n) = some n := by
  decide

theorem readUnits_escapeChar (c : Char) :
    ∃ unit, Denotes unit c ∧
      ∀ rest, readUnits (escapeChar c ++ rest) = (readUnits rest).map (unit :: ·) := by
  unfold escapeChar
  split
  · exact ⟨.char '"', .inl rfl, fun _ ↦ rfl⟩
  · exact ⟨.char '\\', .inl rfl, fun _ ↦ rfl⟩
  · exact ⟨.char '\n', .inl rfl, fun _ ↦ rfl⟩
  · exact ⟨.char '\r', .inl rfl, fun _ ↦ rfl⟩
  · exact ⟨.char '\t', .inl rfl, fun _ ↦ rfl⟩
  · exact ⟨.char '\x08', .inl rfl, fun _ ↦ rfl⟩
  · exact ⟨.char '\x0c', .inl rfl, fun _ ↦ rfl⟩
  · next hquote hbackslash _ _ _ _ _ =>
    split
    · next hlt =>
      have hhex := ofBase?_hexPair c.toNat hlt
      refine ⟨.code c.toNat, .inr ⟨rfl, hlt⟩, fun rest ↦ ?_⟩
      rw [hexPair] at hhex ⊢
      simp only [List.cons_append, List.nil_append, readUnits, hhex]
    · next hge =>
      refine ⟨.char c, .inl rfl, fun rest ↦ ?_⟩
      rw [List.cons_append, List.nil_append, readUnits]
      · rw [if_neg (by simp only [Bool.or_eq_true, decide_eq_true_eq]; tauto)]
      · exact hquote
      · exact fun _ _ _ _ _ hc _ ↦ hbackslash hc
      · exact fun _ _ hc _ ↦ hbackslash hc

theorem joinUnits_cons {unit : StringUnit} (h : Denotes unit c) (units : List StringUnit) :
    joinUnits (unit :: units) = (joinUnits units).map (c :: ·) := by
  obtain rfl | ⟨rfl, hlt⟩ := h
  · rfl
  · have hleading : isLeading c.toNat = false := by simp [isLeading]; omega
    have htrailing : isTrailing c.toNat = false := by simp [isTrailing]; omega
    cases units with
    | nil => simp [joinUnits, hleading, htrailing, Char.ofNat_toNat]
    | cons unit units =>
      cases unit <;> simp [joinUnits, hleading, htrailing, Char.ofNat_toNat]

theorem readUnits_flatMap_escapeChar (cs rest : List Char) :
    ∃ units, readUnits (cs.flatMap escapeChar ++ '"' :: rest) = .ok (units, rest) ∧
      joinUnits units = some cs := by
  induction cs with
  | nil => exact ⟨[], rfl, rfl⟩
  | cons c cs ih =>
    obtain ⟨units, hread, hjoin⟩ := ih
    obtain ⟨unit, hunit, hescape⟩ := readUnits_escapeChar c
    refine ⟨unit :: units, ?_, ?_⟩
    · rw [List.flatMap_cons, List.append_assoc, hescape, hread, Reading.map_ok]
    · rw [joinUnits_cons hunit, hjoin, Option.map_some]

/-- **A printed string** is read back. -/
theorem readString_printString (s : String) (rest : List Char) :
    ∃ tail, printString s ++ rest = '"' :: tail ∧ readString tail = .ok (s, rest) := by
  obtain ⟨units, hread, hjoin⟩ := readUnits_flatMap_escapeChar s.toList rest
  refine ⟨s.toList.flatMap escapeChar ++ '"' :: rest, ?_, readString_eq_ok.2 ⟨units, hread, hjoin⟩⟩
  simp [printString]

/-! ## Numbers -/

/-- The text does not go on with a character that could belong to a number. -/
def EndsNumber (cs : List Char) : Prop :=
  ∀ c ∈ cs.head?, c.isDigit = false ∧ c ≠ '.' ∧ c ≠ 'e' ∧ c ≠ 'E'

theorem endsNumber_nil : EndsNumber [] := nofun

theorem endsNumber_cons (cs : List Char) (hdigit : c.isDigit = false) (hpoint : c ≠ '.')
    (he : c ≠ 'e') (hE : c ≠ 'E') : EndsNumber (c :: cs) := by
  intro d hd
  obtain rfl : c = d := by simpa using hd
  exact ⟨hdigit, hpoint, he, hE⟩

def digitsOf (n : Nat) : List Nat := (Nat.toDigits 10 n).map fun c ↦ c.toNat - '0'.toNat

theorem ofDigits_digitsOf (n : Nat) : ofDigits (digitsOf n) = n := by
  have h := Nat.ofDigitChars_ten_toDigits (n := n)
  rw [Nat.ofDigitChars_eq_foldl] at h
  rw [ofDigits, digitsOf, List.foldl_map]
  simp only [Nat.mul_comm _ 10]
  exact h

theorem isDigit_of_mem_toDigits {n : Nat} (h : c ∈ Nat.toDigits 10 n) : c.isDigit = true :=
  Nat.isDigit_of_mem_toDigits (by decide) (by decide) h

theorem takeDigits_toDigits (n : Nat) (h : EndsNumber rest) :
    takeDigits (Nat.toDigits 10 n ++ rest) = (digitsOf n, rest) := by
  have hrest : rest.takeWhile Char.isDigit = [] ∧ rest.dropWhile Char.isDigit = rest := by
    cases rest with
    | nil => exact ⟨rfl, rfl⟩
    | cons c cs =>
      have hc := (h c rfl).1
      exact ⟨List.takeWhile_cons_of_neg (by simp [hc]), List.dropWhile_cons_of_neg (by simp [hc])⟩
  rw [takeDigits, List.takeWhile_append_of_pos fun c hc ↦ isDigit_of_mem_toDigits hc,
    List.dropWhile_append_of_pos fun c hc ↦ isDigit_of_mem_toDigits hc, hrest.1, hrest.2,
    List.append_nil, digitsOf]

theorem head_toDigits (n : Nat) (h : 0 < n) : ∃ c cs, Nat.toDigits 10 n = c :: cs ∧ c ≠ '0' := by
  induction n using Nat.strongRecOn with
  | _ n ih =>
    rcases Nat.lt_or_ge n 10 with hlt | hge
    · have hne : ∀ n < 10, 0 < n → Nat.digitChar n ≠ '0' := by decide
      exact ⟨n.digitChar, [], Nat.toDigits_of_lt_base hlt, hne n hlt h⟩
    · obtain ⟨c, cs, heq, hne⟩ := ih (n / 10) (by omega) (by omega)
      exact ⟨c, cs ++ [(n % 10).digitChar],
        by rw [Nat.toDigits_of_base_le (by decide) hge, heq, List.cons_append], hne⟩

theorem digitsOf_ne_nil (n : Nat) : digitsOf n ≠ [] := by
  simp [digitsOf]

theorem digitsOf_ne_zero_cons (n : Nat) (d : Nat) (ds : List Nat) : digitsOf n ≠ 0 :: d :: ds := by
  rcases Nat.eq_zero_or_pos n with rfl | hpos
  · exact nofun
  · obtain ⟨c, cs, heq, hne⟩ := head_toDigits n hpos
    have hdigit : c.isDigit = true := isDigit_of_mem_toDigits (n := n) (by simp [heq])
    intro h
    rw [digitsOf, heq, List.map_cons] at h
    have hzero : c.toNat - '0'.toNat = 0 := (List.cons.inj h).1
    have hge : '0'.toNat ≤ c.toNat := by
      simp only [Char.isDigit, Bool.and_eq_true, decide_eq_true_eq] at hdigit
      exact hdigit.1
    exact hne (Char.toNat_inj.1 (Nat.le_antisymm (Nat.sub_eq_zero_iff_le.1 hzero) hge))

theorem readMagnitude_toDigits (negative : Bool) (n : Nat) (h : EndsNumber rest) :
    readMagnitude negative (Nat.toDigits 10 n ++ rest) =
      .ok (⟨negative, digitsOf n, [], none⟩, rest) := by
  have hfraction : readFraction rest = .ok ([], rest) := by
    rw [readFraction]
    rintro tail rfl
    exact (h '.' rfl).2.1 rfl
  have hexponent : readExponent rest = .ok (none, rest) := by
    cases rest with
    | nil => rfl
    | cons c cs =>
      obtain ⟨-, -, he, hE⟩ := h c rfl
      rw [readExponent, if_neg (not_or.2 ⟨he, hE⟩)]
  rw [readMagnitude, takeDigits_toDigits n h]
  split
  · next heq => exact absurd (Prod.mk.inj heq).1 (digitsOf_ne_nil n)
  · next heq => exact absurd (Prod.mk.inj heq).1 (digitsOf_ne_zero_cons n _ _)
  · next heq =>
    obtain ⟨rfl, rfl⟩ := Prod.mk.inj heq
    rw [hfraction, Reading.andThen_ok, hexponent, Reading.map_ok]

theorem value?_of_neg {i : Int} (hneg : i < 0) (hlow : -(signedLimit : Int) ≤ i) :
    (⟨true, digitsOf i.natAbs, [], none⟩ : Numeral).value? = some (.integer i) := by
  have hpos : 0 < i.natAbs := Int.natAbs_pos.2 (by omega)
  have hle : i.natAbs ≤ signedLimit := by omega
  have hi : -(i.natAbs : Int) = i := by omega
  simp only [Numeral.value?, List.isEmpty_nil, Option.isNone_none, Bool.and_self, not_true_eq_false,
    ofDigits_digitsOf, false_and, and_false, ↓reduceIte, hpos, hle, and_self, hi]

theorem value?_of_nonneg {i : Int} (hnonneg : 0 ≤ i) (hhigh : i < wordLimit) :
    (⟨false, digitsOf i.natAbs, [], none⟩ : Numeral).value? = some (.integer i) := by
  have hlt : i.natAbs < wordLimit := by omega
  have hi : (i.natAbs : Int) = i := by omega
  simp [Numeral.value?, ofDigits_digitsOf, hlt, hi]

/-- **A printed integer** is read back. -/
theorem readNumber_printInt {i : Int} (hlow : -(signedLimit : Int) ≤ i) (hhigh : i < wordLimit)
    (h : EndsNumber rest) : readNumber (printInt i ++ rest) = .ok (.integer i, rest) := by
  rw [readNumber_eq_ok, printInt]
  split
  · next hneg =>
    refine ⟨_, ?_, value?_of_neg hneg hlow⟩
    rw [List.cons_append, readNumeral_minus, readMagnitude_toDigits true _ h]
  · next hnonneg =>
    refine ⟨_, ?_, value?_of_nonneg (Int.not_lt.1 hnonneg) hhigh⟩
    rw [readNumeral_of_ne, readMagnitude_toDigits false _ h]
    intro tail heq
    obtain ⟨c, cs, hcs⟩ :=
      List.exists_cons_of_ne_nil (Nat.toDigits_ne_nil (n := i.natAbs) (b := 10))
    rw [hcs, List.cons_append] at heq
    have hdigit := isDigit_of_mem_toDigits (n := i.natAbs) (c := c) (by simp [hcs])
    rw [(List.cons.inj heq).1] at hdigit
    exact absurd hdigit (by decide)

end MonitorCore.Json

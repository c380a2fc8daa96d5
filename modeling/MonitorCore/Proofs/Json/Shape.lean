import Mathlib.Data.List.DropRight
import MonitorCore.Proofs.Json.Items

/-!
# How a value stands in a text

The reader of values looks at one character and goes on from there. `Shape` has one constructor for
each way this can go, and in brackets it refers to the reader one level further down. It says
neither more nor less than the reader does (`readValue_eq_ok`), so any other reader that meets the
same text is compared with it case by case.
-/

namespace MonitorCore.Json

/-! ## What the lexemes take -/

theorem expectWord_eq_ok {word cs rest : List Char} :
    expectWord word cs = .ok ((), rest) ↔ cs = word ++ rest := by
  induction word generalizing cs with
  | nil => simp [expectWord]
  | cons w word ih =>
    cases cs with
    | nil => simp [expectWord]
    | cons c cs =>
      rw [expectWord]
      split_ifs with hc
      · rw [ih, hc, List.cons_append, List.cons_inj_right]
      · simp [Ne.symm hc]

theorem expectMark_eq_ok {mark : Char} {cs rest : List Char} :
    expectMark mark cs = .ok ((), rest) ↔ skipGaps cs = mark :: rest := by
  rw [expectMark]
  split
  · next hcs => simp [hcs]
  · next c tail hcs =>
    rw [hcs]
    split_ifs with hc
    · simp [hc]
    · simp [hc]

theorem length_lt_of_expectMark {mark : Char} {cs rest : List Char}
    (h : expectMark mark cs = .ok ((), rest)) : rest.length < cs.length := by
  have hle := length_skipGaps_le cs
  rw [expectMark_eq_ok.1 h, List.length_cons] at hle
  exact hle

theorem length_lt_of_readUnits {cs rest : List Char} {units : List StringUnit}
    (h : readUnits cs = .ok (units, rest)) : rest.length < cs.length := by
  fun_induction readUnits cs generalizing units with
  | case1 => exact absurd h nofun
  | case2 => cases h; exact Nat.lt_succ_self _
  | case3 => exact absurd h nofun
  | case4 _ _ _ _ tail _ _ ih =>
    obtain ⟨_, h, -⟩ := Reading.map_eq_ok.1 h
    exact Nat.lt_trans (ih h) (by simp only [List.length_cons]; omega)
  | case5 => exact absurd h nofun
  | case6 _ tail _ _ _ ih =>
    obtain ⟨_, h, -⟩ := Reading.map_eq_ok.1 h
    exact Nat.lt_trans (ih h) (by simp only [List.length_cons]; omega)
  | case7 => exact absurd h nofun
  | case8 _ tail _ _ _ _ ih =>
    obtain ⟨_, h, -⟩ := Reading.map_eq_ok.1 h
    exact Nat.lt_trans (ih h) (by simp only [List.length_cons]; omega)

theorem readString_eq_ok {cs rest : List Char} {s : String} :
    readString cs = .ok (s, rest) ↔
      ∃ units, readUnits cs = .ok (units, rest) ∧ joinUnits units = some s.toList := by
  rw [readString, Reading.andThen_eq_ok]
  constructor
  · rintro ⟨units, mid, hunits, h⟩
    split at h
    · exact absurd h nofun
    · next chars hchars =>
      obtain ⟨rfl, rfl⟩ : String.ofList chars = s ∧ mid = rest := by simpa using h
      exact ⟨units, hunits, by rw [hchars, String.toList_ofList]⟩
  · rintro ⟨units, hunits, hchars⟩
    exact ⟨units, rest, hunits, by rw [hchars]; simp⟩

theorem length_lt_of_readString {cs rest : List Char} {s : String}
    (h : readString cs = .ok (s, rest)) : rest.length < cs.length := by
  obtain ⟨_, hunits, -⟩ := readString_eq_ok.1 h
  exact length_lt_of_readUnits hunits

theorem length_of_takeDigits {cs rest : List Char} {digits : List Nat}
    (h : takeDigits cs = (digits, rest)) : digits.length + rest.length = cs.length := by
  cases h
  rw [List.length_map, ← List.length_append, List.takeWhile_append_dropWhile]

theorem length_le_of_readFraction {cs rest : List Char} {digits : List Nat}
    (h : readFraction cs = .ok (digits, rest)) : rest.length ≤ cs.length := by
  rw [readFraction.eq_def] at h
  split at h
  · next tail =>
    split at h
    · exact absurd h nofun
    · next taken _ =>
      have htaken := length_of_takeDigits (Except.ok.inj h)
      rw [List.length_cons]
      omega
  · obtain ⟨-, rfl⟩ : [] = digits ∧ cs = rest := by simpa using h
    exact Nat.le_refl _

theorem length_readSign_le (cs : List Char) : (readSign cs).2.length ≤ cs.length := by
  rw [readSign.eq_def]
  split <;> simp

theorem length_le_of_readExponent {cs rest : List Char} {exponent : Option (Bool × List Nat)}
    (h : readExponent cs = .ok (exponent, rest)) : rest.length ≤ cs.length := by
  rw [readExponent.eq_def] at h
  split at h
  · cases h
    exact Nat.le_refl _
  · next c tail =>
    split_ifs at h
    · have hsign := length_readSign_le tail
      simp only at h
      split at h
      · exact absurd h nofun
      · next digits left _ htaken =>
        have htaken := length_of_takeDigits htaken
        obtain ⟨-, rfl⟩ : some ((readSign tail).1, digits) = exponent ∧ left = rest := by
          simpa using h
        rw [List.length_cons]
        omega
    · cases h
      exact Nat.le_refl _

def readMagnitude (negative : Bool) (cs : List Char) : Reading Numeral :=
  match takeDigits cs with
  | ([], _) => .error .malformed
  | (0 :: _ :: _, _) => .error .malformed
  | (whole, rest) =>
    (readFraction rest).andThen fun fraction rest ↦
      (readExponent rest).map fun exponent ↦ ⟨negative, whole, fraction, exponent⟩

theorem readNumeral_minus (cs : List Char) : readNumeral ('-' :: cs) = readMagnitude true cs := rfl

theorem readNumeral_of_ne {cs : List Char} (h : ∀ rest, cs ≠ '-' :: rest) :
    readNumeral cs = readMagnitude false cs := by
  unfold readNumeral
  split
  · next heq =>
    split at heq
    · exact absurd rfl (h _)
    · obtain ⟨rfl, rfl⟩ := Prod.mk.inj heq
      rfl

theorem length_lt_of_readMagnitude {negative : Bool} {cs rest : List Char} {numeral : Numeral}
    (h : readMagnitude negative cs = .ok (numeral, rest)) : rest.length < cs.length := by
  rw [readMagnitude] at h
  split at h
  · exact absurd h nofun
  · exact absurd h nofun
  · next whole left hne _ htaken =>
    have htaken := length_of_takeDigits htaken
    have hpos : 0 < whole.length := List.length_pos_iff.2 hne
    obtain ⟨fraction, mid, hfraction, h⟩ := Reading.andThen_eq_ok.1 h
    obtain ⟨exponent, hexponent, -⟩ := Reading.map_eq_ok.1 h
    have hmid := length_le_of_readFraction hfraction
    have hrest := length_le_of_readExponent hexponent
    omega

theorem length_lt_of_readNumeral {cs rest : List Char} {numeral : Numeral}
    (h : readNumeral cs = .ok (numeral, rest)) : rest.length < cs.length := by
  by_cases hminus : ∃ tail, cs = '-' :: tail
  · obtain ⟨tail, rfl⟩ := hminus
    rw [readNumeral_minus] at h
    exact Nat.lt_trans (length_lt_of_readMagnitude h) (Nat.lt_succ_self _)
  · rw [readNumeral_of_ne (not_exists.1 hminus)] at h
    exact length_lt_of_readMagnitude h

theorem readNumber_eq_ok {cs rest : List Char} {n : Number} :
    readNumber cs = .ok (n, rest) ↔
      ∃ numeral, readNumeral cs = .ok (numeral, rest) ∧ numeral.value? = some n := by
  rw [readNumber, Reading.andThen_eq_ok]
  constructor
  · rintro ⟨numeral, mid, hnumeral, h⟩
    split at h
    · exact absurd h nofun
    · next hvalue => cases h; exact ⟨numeral, hnumeral, hvalue⟩
  · rintro ⟨numeral, hnumeral, hvalue⟩
    exact ⟨numeral, rest, hnumeral, by rw [hvalue]⟩

theorem length_lt_of_readNumber {cs rest : List Char} {n : Number}
    (h : readNumber cs = .ok (n, rest)) : rest.length < cs.length := by
  obtain ⟨_, hnumeral, -⟩ := readNumber_eq_ok.1 h
  exact length_lt_of_readNumeral hnumeral

/-! ## Shapes -/

/-- A member of an object at the front of a text. -/
def readEntry (depth : Nat) (cs : List Char) : Reading (String × Value) :=
  (readKey cs).andThen fun key rest ↦
    (expectMark ':' rest).andThen fun _ rest ↦ (readValue depth rest).map fun value ↦ (key, value)

theorem readEntry_eq_ok {depth : Nat} {cs rest : List Char} {key : String} {v : Value} :
    readEntry depth cs = .ok ((key, v), rest) ↔
      ∃ tail mid next, cs = '"' :: tail ∧ readString tail = .ok (key, mid) ∧
        expectMark ':' mid = .ok ((), next) ∧ readValue depth next = .ok (v, rest) := by
  rw [readEntry, Reading.andThen_eq_ok]
  constructor
  · rintro ⟨k, mid, hkey, h⟩
    obtain ⟨_, next, hmark, h⟩ := Reading.andThen_eq_ok.1 h
    obtain ⟨_, hvalue, heq⟩ := Reading.map_eq_ok.1 h
    obtain ⟨rfl, rfl⟩ := Prod.mk.inj heq
    rw [readKey.eq_def] at hkey
    split at hkey
    · next tail => exact ⟨tail, mid, next, rfl, hkey, hmark, hvalue⟩
    · exact absurd hkey nofun
  · rintro ⟨tail, mid, next, rfl, hkey, hmark, hvalue⟩
    exact ⟨key, mid, hkey, by rw [hmark, Reading.andThen_ok, hvalue]; rfl⟩

/-- How a value stands at the front of a text that does not begin with a blank, its brackets nested
at most `depth` deep. -/
inductive Shape : Nat → List Char → Value → List Char → Prop
  | null (depth rest) : Shape depth ('n' :: 'u' :: 'l' :: 'l' :: rest) .null rest
  | yes (depth rest) : Shape depth ('t' :: 'r' :: 'u' :: 'e' :: rest) (.bool true) rest
  | no (depth rest) : Shape depth ('f' :: 'a' :: 'l' :: 's' :: 'e' :: rest) (.bool false) rest
  | number {depth c cs n rest} : startsNumber c = true → readNumber (c :: cs) = .ok (n, rest) →
      Shape depth (c :: cs) (.number n) rest
  | text {depth cs s rest} : readString cs = .ok (s, rest) → Shape depth ('"' :: cs) (.text s) rest
  | array {depth cs items rest} :
      Items ']' (fun cs v rest ↦ readValue depth cs = .ok (v, rest)) true cs items rest →
      Shape (depth + 1) ('[' :: cs) (.array items) rest
  | object {depth cs members rest} :
      Items '}' (fun cs member rest ↦ readEntry depth cs = .ok (member, rest)) true cs members
        rest →
      Shape (depth + 1) ('{' :: cs) (.object members) rest

variable {depth : Nat} {cs rest : List Char} {v : Value}

theorem shape_of_readScalar (h : readScalar cs = .ok (v, rest)) : Shape depth cs v rest := by
  rw [readScalar.eq_def] at h
  split at h
  · exact absurd h nofun
  · split_ifs at h with hquote hnumber hn ht hf
    · obtain ⟨s, hs, rfl⟩ := Reading.map_eq_ok.1 h
      exact hquote ▸ .text hs
    · obtain ⟨n, hn, rfl⟩ := Reading.map_eq_ok.1 h
      exact .number hnumber hn
    · obtain ⟨_, hword, rfl⟩ := Reading.map_eq_ok.1 h
      rw [hn, expectWord_eq_ok.1 hword]
      exact .null depth rest
    · obtain ⟨_, hword, rfl⟩ := Reading.map_eq_ok.1 h
      rw [ht, expectWord_eq_ok.1 hword]
      exact .yes depth rest
    · obtain ⟨_, hword, rfl⟩ := Reading.map_eq_ok.1 h
      rw [hf, expectWord_eq_ok.1 hword]
      exact .no depth rest

theorem push_member_eq (depth : Nat) :
    (fun (members : Array (String × Value)) rest ↦
      (readKey rest).andThen fun key rest ↦ (expectMark ':' rest).andThen fun _ rest ↦
        (readValue depth rest).map fun value ↦ members.push (key, value)) =
    fun members rest ↦ (readEntry depth rest).map members.push := by
  funext members rest
  simp only [readEntry, Reading.map_andThen, Reading.map_map]

theorem shape_of_readValue (h : readValue depth cs = .ok (v, rest)) :
    Shape depth (skipGaps cs) v rest := by
  cases depth with
  | zero => exact shape_of_readScalar h
  | succ depth =>
    rw [readValue] at h
    split at h
    · next tail htail =>
      obtain ⟨items, hitems, rfl⟩ := Reading.map_eq_ok.1 h
      obtain ⟨xs, hxs, hall⟩ := Items.of_foldItems hitems
      rw [htail, hall, Array.toList_empty, List.nil_append]
      exact .array hxs
    · next tail htail =>
      rw [push_member_eq] at h
      obtain ⟨members, hmembers, rfl⟩ := Reading.map_eq_ok.1 h
      obtain ⟨xs, hxs, hall⟩ := Items.of_foldItems hmembers
      rw [htail, hall, Array.toList_empty, List.nil_append]
      exact .object hxs
    · exact shape_of_readScalar h

theorem shrinks_entry_of_value
    (hvalue : Shrinks fun cs v rest ↦ readValue depth cs = .ok (v, rest)) :
    Shrinks fun cs member rest ↦ readEntry depth cs = .ok (member, rest) := by
  intro cs member rest h
  obtain ⟨tail, mid, next, rfl, hkey, hmark, hv⟩ := readEntry_eq_ok.1 h
  have hmid := length_lt_of_readString hkey
  have hnext := length_lt_of_expectMark hmark
  have hrest := hvalue _ _ _ hv
  rw [List.length_cons]
  omega

theorem Shape.length_lt
    (hinner : ∀ inner < depth, Shrinks fun cs v rest ↦ readValue inner cs = .ok (v, rest))
    (h : Shape depth cs v rest) : rest.length < cs.length := by
  cases h with
  | null | yes | no => simp only [List.length_cons]; omega
  | number _ hn => exact length_lt_of_readNumber hn
  | text hs => exact Nat.lt_succ_of_lt (length_lt_of_readString hs)
  | array hitems =>
    have hlength := hitems.length_add_lt (hinner _ (Nat.lt_succ_self _))
    rw [List.length_cons]
    omega
  | object hmembers =>
    have hlength := hmembers.length_add_lt (shrinks_entry_of_value (hinner _ (Nat.lt_succ_self _)))
    rw [List.length_cons]
    omega

theorem shrinks_value (depth : Nat) :
    Shrinks fun cs v rest ↦ readValue depth cs = .ok (v, rest) := by
  induction depth using Nat.strongRecOn with
  | _ depth ih =>
    intro cs v rest h
    exact Nat.lt_of_lt_of_le ((shape_of_readValue h).length_lt ih) (length_skipGaps_le cs)

theorem shrinks_entry (depth : Nat) :
    Shrinks fun cs member rest ↦ readEntry depth cs = .ok (member, rest) :=
  shrinks_entry_of_value (shrinks_value depth)

/-! ## Every shape is read -/

theorem ne_of_startsNumber {c d : Char} (h : startsNumber c = true) (hd : startsNumber d = false) :
    c ≠ d := by
  rintro rfl
  rw [h] at hd
  exact absurd hd nofun

theorem skipGaps_skipGaps (cs : List Char) : skipGaps (skipGaps cs) = skipGaps cs :=
  List.dropWhile_idempotent isGap cs

theorem readValue_eq_readScalar (hbracket : ∀ tail, skipGaps cs ≠ '[' :: tail)
    (hbrace : ∀ tail, skipGaps cs ≠ '{' :: tail) :
    readValue depth cs = readScalar (skipGaps cs) := by
  cases depth with
  | zero => rfl
  | succ depth =>
    rw [readValue]
    split
    · next h => exact absurd h (hbracket _)
    · next h => exact absurd h (hbrace _)
    · rfl

/-- **What the reader of values accepts** is a value in one of its shapes. -/
theorem readValue_eq_ok :
    readValue depth cs = .ok (v, rest) ↔ Shape depth (skipGaps cs) v rest := by
  refine ⟨shape_of_readValue, fun h ↦ ?_⟩
  generalize hcs : skipGaps cs = text at h
  cases h with
  | null =>
    rw [readValue_eq_readScalar (by simp [hcs]) (by simp [hcs]), hcs]
    rfl
  | yes =>
    rw [readValue_eq_readScalar (by simp [hcs]) (by simp [hcs]), hcs]
    rfl
  | no =>
    rw [readValue_eq_readScalar (by simp [hcs]) (by simp [hcs]), hcs]
    rfl
  | number hc hn =>
    have hbracket := ne_of_startsNumber hc (rfl : startsNumber '[' = false)
    have hbrace := ne_of_startsNumber hc (rfl : startsNumber '{' = false)
    have hquote := ne_of_startsNumber hc (rfl : startsNumber '"' = false)
    rw [readValue_eq_readScalar (by simp [hcs, hbracket]) (by simp [hcs, hbrace]), hcs, readScalar,
      if_neg hquote, if_pos hc, hn]
    rfl
  | text hs =>
    rw [readValue_eq_readScalar (by simp [hcs]) (by simp [hcs]), hcs, readScalar, if_pos rfl, hs]
    rfl
  | array hitems =>
    rw [readValue, hcs]
    simp only [hitems.foldAll_push (shrinks_value _), Reading.map_ok]
  | object hmembers =>
    rw [readValue, hcs]
    simp only [push_member_eq, hmembers.foldAll_push (shrinks_entry _), Reading.map_ok]

end MonitorCore.Json

import Mathlib.Algebra.Group.Nat.Defs
import Mathlib.Tactic.SplitIfs
import MonitorCore.Text.KeyMap

/-!
# The order of UTF-8 bytes

Texts are compared code point by code point. The same order is that of their UTF-8 bytes
(`bytes_lt_bytes`): the first byte of a character grows with its code point, and where it is the
same the bytes after it are as many, and are the lower digits of the code point in base 64.
-/

namespace MonitorCore.Text

def bytes (s : String) : List UInt8 := s.toUTF8.data.toList

theorem bytes_eq_flatMap (s : String) : bytes s = s.toList.flatMap String.utf8EncodeChar := by
  have hs : s = String.ofList s.toList := String.ofList_toList.symm
  rw [bytes, hs, String.toUTF8_eq_toByteArray, String.toByteArray_ofList, List.utf8Encode,
    List.data_toByteArray, String.toList_ofList]

/-! ## The bytes of a character -/

/-- How many bytes follow the first one of a code point. -/
def trailingCount (n : Nat) : Nat :=
  if n ≤ 0x7f then 0 else if n ≤ 0x7ff then 1 else if n ≤ 0xffff then 2 else 3

/-- The first byte of a code point: the upper digits, on a mark for how many bytes follow. -/
def leadByte (n : Nat) : Nat :=
  if n ≤ 0x7f then n
  else if n ≤ 0x7ff then 0xc0 + n / 64
  else if n ≤ 0xffff then 0xe0 + n / 4096
  else 0xf0 + n / 262144

/-- The bytes after the first one: the lower `count` digits in base 64. -/
def trailingBytes (n : Nat) : Nat → List UInt8
  | 0 => []
  | count + 1 => UInt8.ofNat (n / 64 ^ count % 64 + 0x80) :: trailingBytes n count

theorem toNat_le (c : Char) : c.toNat ≤ 0x10ffff := by
  rcases c.valid with h | h
  · exact Nat.le_of_lt (Nat.lt_trans h (by decide))
  · exact Nat.le_of_lt_succ h.2

theorem utf8EncodeChar_eq_cons (c : Char) :
    String.utf8EncodeChar c =
      UInt8.ofNat (leadByte c.toNat) :: trailingBytes c.toNat (trailingCount c.toNat) := by
  have hc := toNat_le c
  simp only [String.utf8EncodeChar, Char.toNat_val, leadByte, trailingCount]
  generalize c.toNat = n at *
  split_ifs
  all_goals simp only [trailingBytes, List.cons.injEq, Nat.reducePow, Nat.div_one, and_true]
  all_goals exact congrArg UInt8.ofNat (by omega)

/-- The first byte does not fall, and where it stays the count and the upper digits do. -/
theorem leadByte_of_lt {m n : Nat} (h : m < n) :
    leadByte m < leadByte n ∨ leadByte m = leadByte n ∧ trailingCount m = trailingCount n ∧
      m / 64 ^ trailingCount m = n / 64 ^ trailingCount m := by
  simp only [leadByte, trailingCount]
  split_ifs <;> simp only [Nat.reducePow, true_and] <;> omega

theorem leadByte_lt {n : Nat} (h : n ≤ 0x10ffff) : leadByte n < UInt8.size := by
  rw [UInt8.size, leadByte]
  split_ifs <;> omega

theorem trailingByte_lt (digit : Nat) : digit % 64 + 0x80 < UInt8.size := by
  rw [UInt8.size]
  omega

theorem trailingBytes_lt {m n : Nat} (h : m < n) (count : Nat)
    (hupper : m / 64 ^ count = n / 64 ^ count) (xs ys : List UInt8) :
    trailingBytes m count ++ xs < trailingBytes n count ++ ys := by
  induction count with
  | zero => exact absurd (by simpa using hupper) (Nat.ne_of_lt h)
  | succ count ih =>
    have hle : m / 64 ^ count ≤ n / 64 ^ count := Nat.div_le_div_right (Nat.le_of_lt h)
    rw [pow_succ, ← Nat.div_div_eq_div_mul, ← Nat.div_div_eq_div_mul] at hupper
    rw [trailingBytes, trailingBytes, List.cons_append, List.cons_append, List.cons_lt_cons_iff]
    rcases Nat.lt_or_eq_of_le hle with hlt | heq
    · exact .inl ((UInt8.ofNat_lt_iff_lt (trailingByte_lt _) (trailingByte_lt _)).2 (by omega))
    · exact .inr ⟨by rw [heq], ih heq⟩

/-- **Characters** are in the order of their bytes, whatever comes after them. -/
theorem utf8EncodeChar_lt {c d : Char} (h : c < d) (xs ys : List UInt8) :
    String.utf8EncodeChar c ++ xs < String.utf8EncodeChar d ++ ys := by
  have hlt : c.toNat < d.toNat := UInt32.lt_iff_toNat_lt.1 (Char.lt_def.1 h)
  rw [utf8EncodeChar_eq_cons, utf8EncodeChar_eq_cons, List.cons_append, List.cons_append,
    List.cons_lt_cons_iff]
  rcases leadByte_of_lt hlt with hlead | ⟨hlead, hcount, hupper⟩
  · exact .inl ((UInt8.ofNat_lt_iff_lt (leadByte_lt (toNat_le c)) (leadByte_lt (toNat_le d))).2
      hlead)
  · refine .inr ⟨by rw [hlead], ?_⟩
    rw [← hcount]
    exact trailingBytes_lt hlt _ hupper xs ys

/-! ## The bytes of a text -/

theorem flatMap_utf8EncodeChar_lt {cs ds : List Char} (h : cs < ds) :
    cs.flatMap String.utf8EncodeChar < ds.flatMap String.utf8EncodeChar := by
  induction h with
  | nil =>
    rw [List.flatMap_cons, utf8EncodeChar_eq_cons]
    exact .nil
  | cons _ ih => exact List.append_left_lt ih
  | rel h => exact utf8EncodeChar_lt h _ _

/-- **Texts** are in the order of their bytes. -/
theorem bytes_lt_bytes {s t : String} : bytes s < bytes t ↔ s < t := by
  have hmono {s t : String} (h : s < t) : bytes s < bytes t := by
    rw [bytes_eq_flatMap, bytes_eq_flatMap]
    exact flatMap_utf8EncodeChar_lt (String.lt_iff.1 h)
  refine ⟨fun h ↦ ?_, hmono⟩
  rcases Std.lt_trichotomy s t with hlt | rfl | hgt
  · exact hlt
  · exact absurd h (List.lt_irrefl _)
  · exact absurd h (List.lt_asymm (hmono hgt))

end MonitorCore.Text

import Mathlib.Data.List.Basic
import MonitorCore.Text.Quoted

/-!
# Texts that show where they end

What is written of a value is *self-delimiting* if it can be told from whatever follows it
(`SelfDelimiting`). Such texts may be put together: the pair of two of them is self-delimiting
again, and so is a list whose end is marked by a character that begins no item.

A quoted text is such a list of characters, each by itself, by a letter or by number, up to the
quotation mark that is not escaped.
-/

namespace MonitorCore.Text

variable {α β : Type} {close : Char}

/-- What is written of a value can be told from what follows. -/
def SelfDelimiting (write : α → List Char) : Prop :=
  ∀ ⦃x y rest rest'⦄, write x ++ rest = write y ++ rest' → x = y ∧ rest = rest'

/-- Nothing that begins with what is written of a value begins with this character. -/
def NeverStarts (close : Char) (write : α → List Char) : Prop :=
  ∀ x rest rest', write x ++ rest ≠ close :: rest'

/-- Items, one after the other, up to a closing character. -/
def closedList (close : Char) (write : α → List Char) (xs : List α) : List Char :=
  xs.flatMap write ++ [close]

section

variable {write : α → List Char} {write' : β → List Char} {sep : List Char}

theorem closedList_cons_append (x : α) (xs : List α) (rest : List Char) :
    closedList close write (x :: xs) ++ rest = write x ++ (closedList close write xs ++ rest) := by
  simp [closedList]

theorem intercalate_cons_append (x : α) (xs : List α) (rest : List Char) :
    sep.intercalate ((x :: xs).map write) ++ close :: rest =
      write x ++ (closedList close (fun y ↦ sep ++ write y) xs ++ rest) := by
  induction xs generalizing x with
  | nil => simp [closedList]
  | cons y xs ih =>
    have ih := ih y
    rw [List.map_cons] at ih
    rw [List.map_cons, List.map_cons, List.intercalate_cons_cons, closedList_cons_append,
      List.append_assoc, List.append_assoc, ih, List.append_assoc]

namespace SelfDelimiting

theorem injective (h : SelfDelimiting write) : Function.Injective write := fun _ _ heq ↦
  (h (congrArg (· ++ []) heq)).1

theorem after (h : SelfDelimiting write) (lead : List Char) :
    SelfDelimiting fun x ↦ lead ++ write x := by
  intro x y rest rest' heq
  rw [List.append_assoc, List.append_assoc] at heq
  exact h (List.append_cancel_left heq)

theorem comp (h : SelfDelimiting write) {f : β → α} (hf : Function.Injective f) :
    SelfDelimiting fun x ↦ write (f x) := by
  intro x y rest rest' heq
  obtain ⟨hvalue, hrest⟩ := h heq
  exact ⟨hf hvalue, hrest⟩

theorem pair (h : SelfDelimiting write) (h' : SelfDelimiting write') :
    SelfDelimiting fun x : α × β ↦ write x.1 ++ write' x.2 := by
  intro x y rest rest' heq
  rw [List.append_assoc, List.append_assoc] at heq
  obtain ⟨hfst, heq⟩ := h heq
  obtain ⟨hsnd, hrest⟩ := h' heq
  exact ⟨Prod.ext hfst hsnd, hrest⟩

theorem word (h : Function.Injective write) (hclose : ∀ x, close ∉ write x) :
    SelfDelimiting fun x ↦ write x ++ [close] := by
  intro x y rest rest' heq
  rw [List.append_assoc, List.append_assoc] at heq
  -- If one word were longer, its next character would be the closing one.
  rcases List.append_eq_append_iff.1 heq with ⟨common, hy, hcommon⟩ | ⟨common, hx, hcommon⟩
  · cases common with
    | nil =>
      rw [List.append_nil] at hy
      exact ⟨h hy.symm, (List.cons_eq_cons.1 hcommon).2⟩
    | cons c common =>
      obtain ⟨rfl, -⟩ := List.cons_eq_cons.1 hcommon
      exact absurd (by simp [hy]) (hclose y)
  · cases common with
    | nil =>
      rw [List.append_nil] at hx
      exact ⟨h hx, (List.cons_eq_cons.1 hcommon).2.symm⟩
    | cons c common =>
      obtain ⟨rfl, -⟩ := List.cons_eq_cons.1 hcommon
      exact absurd (by simp [hx]) (hclose x)

theorem list (h : SelfDelimiting write) (hclose : NeverStarts close write) :
    SelfDelimiting (closedList close write) := by
  intro xs
  induction xs with
  | nil =>
    intro ys rest rest' heq
    cases ys with
    | nil => exact ⟨rfl, (List.cons_eq_cons.1 heq).2⟩
    | cons y ys =>
      rw [closedList_cons_append] at heq
      exact absurd heq.symm (hclose y _ rest)
  | cons x xs ih =>
    intro ys rest rest' heq
    rw [closedList_cons_append] at heq
    cases ys with
    | nil => exact absurd heq (hclose x _ rest')
    | cons y ys =>
      rw [closedList_cons_append] at heq
      obtain ⟨rfl, htail⟩ := h heq
      obtain ⟨rfl, hrest⟩ := ih htail
      exact ⟨rfl, hrest⟩

theorem intercalate (h : SelfDelimiting write) (hclose : NeverStarts close write)
    (hsep : NeverStarts close fun x ↦ sep ++ write x) :
    SelfDelimiting fun xs : List α ↦ sep.intercalate (xs.map write) ++ [close] := by
  have hlist := (h.after sep).list hsep
  intro xs ys rest rest' heq
  rw [List.append_assoc, List.append_assoc, List.singleton_append, List.singleton_append] at heq
  cases xs with
  | nil =>
    cases ys with
    | nil => exact ⟨rfl, (List.cons_eq_cons.1 heq).2⟩
    | cons y ys =>
      rw [intercalate_cons_append] at heq
      exact absurd heq.symm (hclose y _ rest)
  | cons x xs =>
    rw [intercalate_cons_append] at heq
    cases ys with
    | nil => exact absurd heq (hclose x _ rest')
    | cons y ys =>
      rw [intercalate_cons_append] at heq
      obtain ⟨rfl, htail⟩ := h heq
      obtain ⟨rfl, hrest⟩ := hlist htail
      exact ⟨rfl, hrest⟩

end SelfDelimiting

end

/-! ## Numbers -/

theorem digitChar_inj {m n : Nat} (hm : m < 16) (hn : n < 16) :
    m.digitChar = n.digitChar ↔ m = n := by
  have hall : ∀ m < 16, ∀ n < 16, m.digitChar = n.digitChar → m = n := by decide
  exact ⟨hall m hm n hn, congrArg Nat.digitChar⟩

theorem hex_injective : Function.Injective hex := by
  intro m
  induction m using Nat.strongRecOn with
  | _ m ih =>
    intro n heq
    have hlast : ∀ n : Nat, n % 16 < 16 := fun n ↦ Nat.mod_lt n (by decide)
    rw [hex, hex, Nat.toDigits_eq_if (by decide), Nat.toDigits_eq_if (n := n) (by decide)] at heq
    split at heq
    · next hm =>
      split at heq
      · next hn => exact (digitChar_inj hm hn).1 (List.singleton_inj.1 heq)
      · exact absurd (congrArg List.length heq) (by simp [Nat.toDigits_ne_nil])
    · split at heq
      · exact absurd (congrArg List.length heq) (by simp [Nat.toDigits_ne_nil])
      · obtain ⟨hfront, hdigit⟩ := List.append_inj' heq rfl
        have hdiv : m / 16 = n / 16 := ih _ (by omega) hfront
        have hmod : m % 16 = n % 16 :=
          (digitChar_inj (hlast m) (hlast n)).1 (List.singleton_inj.1 hdigit)
        omega

theorem brace_notMem_hex (n : Nat) : '}' ∉ hex n := by
  induction n using Nat.strongRecOn with
  | _ n ih =>
    have hdigit : ∀ m : Nat, '}' ∉ [m.digitChar] := fun m hmem ↦
      Nat.digitChar_ne '}' (by decide) (List.mem_singleton.1 hmem).symm
    rw [hex, Nat.toDigits_eq_if (by decide)]
    split
    · exact hdigit n
    · rw [List.mem_append, not_or]
      exact ⟨ih _ (by omega), hdigit _⟩

theorem selfDelimiting_hex : SelfDelimiting fun n ↦ hex n ++ ['}'] :=
  .word hex_injective brace_notMem_hex

/-! ## Characters between quotation marks -/

/-- The characters that are escaped by a letter. -/
def letterEscapes : List (Char × Char) :=
  [('\x00', '0'), ('\t', 't'), ('\r', 'r'), ('\n', 'n'), ('"', '"'), ('\\', '\\')]

/-- The ways to write a character between quotation marks. -/
inductive Escaped (c : Char) : List Char → Prop
  | itself (hquote : c ≠ '"') (hslash : c ≠ '\\') : Escaped c [c]
  | byLetter {letter : Char} (hmem : (c, letter) ∈ letterEscapes) : Escaped c ['\\', letter]
  | byNumber : Escaped c (byNumber c)

theorem escaped_quotedChar (c : Char) : Escaped c (quotedChar c) := by
  rw [quotedChar.eq_def]
  split
  case h_7 hquote hslash =>
    split
    · exact .byNumber
    · exact .itself hquote hslash
  all_goals exact .byLetter (by decide)

theorem letterEscapes_inj {c d letter : Char} (hc : (c, letter) ∈ letterEscapes)
    (hd : (d, letter) ∈ letterEscapes) : c = d := by
  have hall : ∀ e ∈ letterEscapes, ∀ e' ∈ letterEscapes, e.2 = e'.2 → e.1 = e'.1 := by decide
  exact hall _ hc _ hd rfl

theorem ne_u_of_mem_letterEscapes {c letter : Char} (h : (c, letter) ∈ letterEscapes) :
    letter ≠ 'u' := by
  have hall : ∀ e ∈ letterEscapes, e.2 ≠ 'u' := by decide
  exact hall _ h

theorem selfDelimiting_quotedChar : SelfDelimiting quotedChar := by
  intro c d rest rest' heq
  have hc := escaped_quotedChar c
  have hd := escaped_quotedChar d
  generalize quotedChar c = cs at hc heq
  generalize quotedChar d = ds at hd heq
  cases hc with
  | itself _ hslash =>
    cases hd with
    | itself => exact List.cons_eq_cons.1 heq
    | byLetter => exact absurd (List.cons_eq_cons.1 heq).1 hslash
    | byNumber => exact absurd (List.cons_eq_cons.1 heq).1 hslash
  | byLetter hletter =>
    cases hd with
    | itself _ hslash => exact absurd (List.cons_eq_cons.1 heq).1.symm hslash
    | byLetter hletter' =>
      obtain ⟨rfl, hrest⟩ := List.cons_eq_cons.1 (List.cons_eq_cons.1 heq).2
      exact ⟨letterEscapes_inj hletter hletter', hrest⟩
    | byNumber =>
      exact absurd (List.cons_eq_cons.1 (List.cons_eq_cons.1 heq).2).1
        (ne_u_of_mem_letterEscapes hletter)
  | byNumber =>
    cases hd with
    | itself _ hslash => exact absurd (List.cons_eq_cons.1 heq).1.symm hslash
    | byLetter hletter =>
      exact absurd (List.cons_eq_cons.1 (List.cons_eq_cons.1 heq).2).1.symm
        (ne_u_of_mem_letterEscapes hletter)
    | byNumber =>
      obtain ⟨hnumber, hrest⟩ := selfDelimiting_hex.after ['\\', 'u', '{'] heq
      exact ⟨Char.toNat_inj.1 hnumber, hrest⟩

theorem neverStarts_quotedChar : NeverStarts '"' quotedChar := by
  intro c rest rest' heq
  have hc := escaped_quotedChar c
  generalize quotedChar c = cs at hc heq
  cases hc with
  | itself hquote => exact hquote (List.cons_eq_cons.1 heq).1
  | byLetter => exact absurd (List.cons_eq_cons.1 heq).1 (by decide)
  | byNumber => exact absurd (List.cons_eq_cons.1 heq).1 (by decide)

/-! ## Quoted texts -/

theorem toList_quoted (s : String) :
    (quoted s).toList = ['"'] ++ closedList '"' quotedChar s.toList := by
  simp [quoted, closedList]

/-- **A quoted text** shows where it ends. -/
theorem selfDelimiting_quoted : SelfDelimiting fun s ↦ (quoted s).toList := by
  have h := ((selfDelimiting_quotedChar.list neverStarts_quotedChar).comp
    fun s t ↦ String.toList_inj.1).after ['"']
  simpa only [toList_quoted] using h

end MonitorCore.Text

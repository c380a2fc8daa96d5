import MonitorCore.Json.Variant
import MonitorCore.Proofs.Json.Canonical
import MonitorCore.Proofs.Json.Shape

/-!
# Reading from text and from values

A format reads the text of a value without building the value. It *agrees* if this gives the same as
building the value, bringing it into canonical form and reading that. What is compared are results
and where the text goes on, not the reasons of failures, as these differ.

Every format looks at one character first, so each law below is a case analysis over the shapes of
the value that stands in the text. In all cases but those the format is made for, both ways fail.
-/

namespace MonitorCore.Json

variable {α β : Type} {depth : Nat} {cs rest : List Char} {v : Value}

@[simp] theorem toOption_ok {ε : Type} (x : α) : (.ok x : Except ε α).toOption = some x := rfl

@[simp] theorem toOption_error {ε : Type} (reason : ε) :
    (.error reason : Except ε α).toOption = none := rfl

theorem toOption_map {ε : Type} (f : α → β) (outcome : Except ε α) :
    (outcome.map f).toOption = outcome.toOption.map f := by
  cases outcome <;> rfl

theorem toOption_eq_some {ε : Type} {outcome : Except ε α} {x : α} :
    outcome.toOption = some x ↔ outcome = .ok x := by
  cases outcome <;> simp

theorem Gives.of_refuse (wanted : String) (cs rest : List Char) :
    Gives (refuse wanted cs : Reading α) none rest := by
  rw [refuse]
  split
  · exact .of_error rfl
  · exact .of_error rfl

namespace Format

variable {format : Format α}

/-- Of a text that holds a value up to `depth`, the format reads the same as of the value. -/
def AgreesAt (depth : Nat) (format : Format α) : Prop :=
  ∀ ⦃cs v rest⦄, readValue depth cs = .ok (v, rest) → v.Unrepeated →
    Gives (format.ofText cs) (format.ofValue v.canonical).toOption rest

theorem AgreesAt.along (h : format.AgreesAt depth) (forth : α → β) (back : β → α) :
    (format.along forth back).AgreesAt depth := by
  intro cs v rest hv hunrepeated
  simp only [Format.along, toOption_map]
  exact (h hv hunrepeated).map forth

private theorem id_refuses {c : Char} {tail : List Char} (hcs : skipGaps cs = c :: tail)
    (hc : startsNumber c = false) : Gives (id.ofText cs) none rest := by
  simp only [id, hcs, hc]
  exact .of_refuse ..

theorem agreesAt_id (depth : Nat) : id.AgreesAt depth := by
  intro cs v rest hv _
  have hshape := readValue_eq_ok.1 hv
  generalize hcs : skipGaps cs = text at hshape
  cases hshape with
  | null | yes | no | text | array | object => exact id_refuses hcs rfl
  | number hc hn =>
    simp only [id, hcs, if_pos hc, hn, Reading.andThen_ok, Value.canonical]
    split
    · next h => rw [h]; exact .of_eq rfl
    · next h => rw [h]; exact .of_error rfl

theorem agreesAt_text (depth : Nat) : text.AgreesAt depth := by
  intro cs v rest hv _
  have hshape := readValue_eq_ok.1 hv
  simp only [text]
  generalize skipGaps cs = text at hshape
  cases hshape with
  | null | yes | no | array | object => exact .of_refuse ..
  | number hc =>
    split
    · next heq => exact absurd (List.cons.inj heq).1 (ne_of_startsNumber hc rfl)
    · exact .of_refuse ..
  | text hs => exact .of_eq hs

private theorem flag_refuses {c : Char} {tail : List Char} (hcs : skipGaps cs = c :: tail)
    (ht : c ≠ 't') (hf : c ≠ 'f') : Gives (flag.ofText cs) none rest := by
  simp only [flag, hcs, if_neg ht, if_neg hf]
  exact .of_refuse ..

theorem agreesAt_flag (depth : Nat) : flag.AgreesAt depth := by
  intro cs v rest hv _
  have hshape := readValue_eq_ok.1 hv
  generalize hcs : skipGaps cs = text at hshape
  cases hshape with
  | null | text | array | object => exact flag_refuses hcs (by decide) (by decide)
  | yes | no => simp only [flag, hcs]; exact .of_eq rfl
  | number hc => exact flag_refuses hcs (ne_of_startsNumber hc rfl) (ne_of_startsNumber hc rfl)

theorem ofValue_optional_of_ne_null (format : Format α) (h : v ≠ .null) :
    (optional format).ofValue v = (format.ofValue v).map some := by
  simp only [optional]

theorem AgreesAt.optional (h : format.AgreesAt depth) : (optional format).AgreesAt depth := by
  intro cs v rest hv hunrepeated
  have hshape := readValue_eq_ok.1 hv
  have hinner : Gives (format.ofText (skipGaps cs)) (format.ofValue v.canonical).toOption rest :=
    h (readValue_eq_ok.2 (by rwa [skipGaps_skipGaps])) hunrepeated
  -- what is not null is read by the inner format, from a text that has lost its blanks
  have hsome : (∀ tail, skipGaps cs ≠ 'n' :: tail) → v ≠ .null →
      Gives ((Format.optional format).ofText cs)
        ((Format.optional format).ofValue v.canonical).toOption rest := by
    intro hn hnull
    have htext : (Format.optional format).ofText cs = (format.ofText (skipGaps cs)).map some := by
      simp only [Format.optional]
    rw [htext, ofValue_optional_of_ne_null format fun heq ↦ hnull (Value.canonical_eq_null.1 heq),
      toOption_map]
    exact hinner.map some
  generalize hcs : skipGaps cs = text at hshape
  cases hshape with
  | null => simp only [Format.optional, hcs]; exact .of_eq rfl
  | yes | no | text | array | object => exact hsome (by simp [hcs]) nofun
  | number hc =>
    exact hsome (by simpa [hcs] using ne_of_startsNumber hc (rfl : startsNumber 'n' = false)) nofun

/-! ## Lists -/

theorem map_foldlM_push (format : Format α) (vs : List Value) (done : Array α) :
    (vs.foldlM (fun items v ↦ (format.ofValue v.canonical).toOption.map items.push) done).map
        Array.toList =
      (listOfValues format (vs.map Value.canonical)).toOption.map (done.toList ++ ·) := by
  induction vs generalizing done with
  | nil => simp [listOfValues, Except.toOption]
  | cons v vs ih =>
    rw [List.foldlM_cons, List.map_cons, listOfValues]
    cases format.ofValue v.canonical with
    | error reason => rfl
    | ok x =>
      simp only [toOption_ok, Option.map_some, Option.bind_eq_bind, Option.bind_some, ih,
        toOption_map, Option.map_map]
      congr 1
      funext xs
      simp

theorem AgreesAt.list (h : ∀ depth, format.AgreesAt depth) (depth : Nat) :
    (list format).AgreesAt depth := by
  intro cs v rest hv hunrepeated
  have hshape := readValue_eq_ok.1 hv
  simp only [Format.list]
  generalize skipGaps cs = text at hshape
  cases hshape with
  | null | yes | no | text | object => exact .of_refuse ..
  | number hc =>
    split
    · next heq => exact absurd (List.cons.inj heq).1 (ne_of_startsNumber hc rfl)
    · exact .of_refuse ..
  | array hitems =>
    have hfold := hitems.foldAll_gives (shrinks_value _)
      (fun v hmem cs rest hv (items : Array α) ↦
        (h _ hv (Value.unrepeated_array.1 hunrepeated v hmem)).map items.push) #[]
    have hmap := hfold.map Array.toList
    rw [map_foldlM_push] at hmap
    simp only [Value.canonical, Value.canonicalItems_eq_map]
    simpa using hmap

end Format

end MonitorCore.Json

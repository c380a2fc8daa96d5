import MonitorCore.Proofs.Json.Canonical
import MonitorCore.Proofs.Json.PrintedLexeme

/-!
# Printed values read back

The compact text of a value reads back as this value, provided that the value holds no doubles,
repeats no key and is not nested too deep (`Value.Fits`). What follows the text must not go on with
a number; within brackets a comma or a bracket follows.
-/

namespace MonitorCore.Json

open MonitorCore.Decimal (wordLimit signedLimit)

variable {α : Type} {depth : Nat} {cs rest : List Char} {v : Value}

namespace Value

/-- The value is nested at most `depth` deep, repeats no key, and its numbers are integers of 64
bits. -/
def Fits : Nat → Value → Prop
  | _, .null => True
  | _, .bool _ => True
  | _, .text _ => True
  | _, .number (.integer i) => -(signedLimit : Int) ≤ i ∧ i < wordLimit
  | _, .number (.float _) => False
  | 0, .array _ => False
  | 0, .object _ => False
  | depth + 1, .array items => ∀ v ∈ items, Fits depth v
  | depth + 1, .object members =>
    (members.map Prod.fst).Nodup ∧ ∀ member ∈ members, Fits depth member.2

theorem Fits.unrepeated (h : v.Fits depth) : v.Unrepeated := by
  induction depth generalizing v with
  | zero =>
    cases v with
    | null | bool | number | text => rw [Unrepeated]; trivial
    | array | object => exact absurd h id
  | succ depth ih =>
    cases v with
    | null | bool | number | text => rw [Unrepeated]; trivial
    | array items => exact unrepeated_array.2 fun v hmem ↦ ih (h v hmem)
    | object members => exact unrepeated_object.2 ⟨h.1, fun member hmem ↦ ih (h.2 member hmem)⟩

theorem printItems_eq_map (items : List Value) : printItems items = items.map print := by
  induction items with
  | nil => rfl
  | cons v items ih => rw [printItems, ih, List.map_cons]

theorem printMembers_eq_map (members : List (String × Value)) :
    printMembers members =
      members.map fun member ↦ printString member.1 ++ ':' :: member.2.print := by
  induction members with
  | nil => rfl
  | cons member members ih => rw [printMembers, ih, List.map_cons]

theorem print_array_append (items : List Value) (rest : List Char) :
    (array items).print ++ rest = '[' :: (commaSeparated (items.map print) ++ ']' :: rest) := by
  simp [print, printItems_eq_map]

theorem print_object_append (members : List (String × Value)) (rest : List Char) :
    (object members).print ++ rest = '{' :: (commaSeparated (members.map fun member ↦
      printString member.1 ++ ':' :: member.2.print) ++ '}' :: rest) := by
  simp [print, printMembers_eq_map]

end Value

/-! ## Items and commas -/

theorem skipGaps_cons {c : Char} (h : isGap c = false) (cs : List Char) :
    skipGaps (c :: cs) = c :: cs :=
  List.dropWhile_cons_of_neg (by simp [h])

/-- The comma before an item that is not the first one. -/
def lead (first : Bool) : List Char := if first then [] else [',']

/-- An item begins with a character of its own. -/
def StartsItem (close : Char) (cs : List Char) : Prop :=
  ∃ c tail, cs = c :: tail ∧ isGap c = false ∧ c ≠ close

theorem StartsItem.moreItems_lead {close : Char} (h : StartsItem close cs) (hcomma : close ≠ ',')
    (first : Bool) : moreItems close first (lead first ++ cs) = .ok (true, cs) := by
  obtain ⟨c, tail, rfl, hgap, hclose⟩ := h
  cases first with
  | true => exact moreItems_first (skipGaps_cons hgap tail) hclose
  | false =>
    exact moreItems_next (skipGaps_cons rfl _) hcomma.symm (skipGaps_cons hgap tail) hclose

section Items

variable {close : Char} {item : List Char → α → List Char → Prop} {print : α → List Char}

theorem items_cons_commaSeparated (hcomma : close ≠ ',') (hgap : isGap close = false)
    (hclose : EndsNumber (close :: rest)) {x : α} {xs : List α}
    (hstart : ∀ y ∈ x :: xs, ∀ tail, StartsItem close (print y ++ tail))
    (hitem : ∀ y ∈ x :: xs, ∀ rest, EndsNumber rest → item (print y ++ rest) y rest)
    (first : Bool) :
    Items close item first (lead first ++ (commaSeparated ((x :: xs).map print) ++ close :: rest))
      (x :: xs) rest := by
  induction xs generalizing x first with
  | nil =>
    have hmore := (hstart x (.head _) (close :: rest)).moreItems_lead hcomma first
    exact .cons hmore (hitem x (.head _) _ hclose)
      (.nil (moreItems_of_close false (skipGaps_cons hgap rest)))
  | cons y xs ih =>
    have htext : commaSeparated ((x :: y :: xs).map print) ++ close :: rest =
        print x ++ (lead false ++ (commaSeparated ((y :: xs).map print) ++ close :: rest)) := by
      simp [commaSeparated, lead]
    rw [htext]
    refine .cons ((hstart x (.head _) _).moreItems_lead hcomma first) (hitem x (.head _) _ ?_) ?_
    · exact endsNumber_cons _ rfl (by decide) (by decide) (by decide)
    · exact ih (fun z hz ↦ hstart z (.tail _ hz)) (fun z hz ↦ hitem z (.tail _ hz)) false

theorem items_commaSeparated (hcomma : close ≠ ',') (hgap : isGap close = false)
    (hclose : EndsNumber (close :: rest)) {xs : List α}
    (hstart : ∀ x ∈ xs, ∀ tail, StartsItem close (print x ++ tail))
    (hitem : ∀ x ∈ xs, ∀ rest, EndsNumber rest → item (print x ++ rest) x rest) :
    Items close item true (commaSeparated (xs.map print) ++ close :: rest) xs rest := by
  cases xs with
  | nil => exact .nil (moreItems_of_close true (skipGaps_cons hgap rest))
  | cons x xs => exact items_cons_commaSeparated hcomma hgap hclose hstart hitem true

end Items

/-! ## Values -/

theorem endsNumber_bracket (rest : List Char) : EndsNumber (']' :: rest) :=
  endsNumber_cons _ rfl (by decide) (by decide) (by decide)

theorem endsNumber_brace (rest : List Char) : EndsNumber ('}' :: rest) :=
  endsNumber_cons _ rfl (by decide) (by decide) (by decide)

theorem printInt_eq_cons (i : Int) : ∃ c cs, printInt i = c :: cs ∧ startsNumber c = true := by
  rw [printInt]
  split
  · exact ⟨'-', _, rfl, rfl⟩
  · obtain ⟨c, cs, heq⟩ :=
      List.exists_cons_of_ne_nil (Nat.toDigits_ne_nil (n := i.natAbs) (b := 10))
    have hdigit := isDigit_of_mem_toDigits (n := i.natAbs) (c := c) (by simp [heq])
    exact ⟨c, cs, heq, by simp [startsNumber, hdigit]⟩

theorem StartsItem.of_cons {close c : Char} (tail : List Char) (hclose : close = ']' ∨ close = '}')
    (hgap : isGap c = false) (hbracket : c ≠ ']') (hbrace : c ≠ '}') :
    StartsItem close (c :: tail) := by
  refine ⟨c, tail, rfl, hgap, ?_⟩
  rcases hclose with rfl | rfl
  · exact hbracket
  · exact hbrace

theorem startsItem_print {close : Char} (hclose : close = ']' ∨ close = '}') (h : v.Fits depth)
    (tail : List Char) : StartsItem close (v.print ++ tail) := by
  cases v with
  | null | text | array | object => exact .of_cons _ hclose rfl (by decide) (by decide)
  | bool b => cases b <;> exact .of_cons _ hclose rfl (by decide) (by decide)
  | number n =>
    cases n with
    | float => exact absurd h (by simp [Value.Fits])
    | integer i =>
      obtain ⟨c, cs, heq, hc⟩ := printInt_eq_cons i
      have hgap : isGap c = false := by
        simp [isGap, ne_of_startsNumber hc (rfl : startsNumber ' ' = false),
          ne_of_startsNumber hc (rfl : startsNumber '\n' = false),
          ne_of_startsNumber hc (rfl : startsNumber '\t' = false),
          ne_of_startsNumber hc (rfl : startsNumber '\r' = false)]
      rw [Value.print, Number.print, heq]
      exact .of_cons _ hclose hgap (ne_of_startsNumber hc rfl) (ne_of_startsNumber hc rfl)

theorem startsItem_printString (s : String) (tail : List Char) :
    StartsItem '}' (printString s ++ tail) :=
  .of_cons _ (.inr rfl) rfl (by decide) (by decide)

theorem readEntry_print {key : String}
    (hvalue : readValue depth (v.print ++ rest) = .ok (v, rest)) :
    readEntry depth ((printString key ++ ':' :: v.print) ++ rest) = .ok ((key, v), rest) := by
  obtain ⟨tail, htail, hread⟩ := readString_printString key (':' :: (v.print ++ rest))
  refine readEntry_eq_ok.2 ⟨tail, _, v.print ++ rest, ?_, hread, ?_, hvalue⟩
  · rw [← htail, List.append_assoc, List.cons_append]
  · exact expectMark_eq_ok.2 (skipGaps_cons rfl _)

/-- The shape of an object does not depend on its keys, which may be repeated. -/
theorem shape_print_object {members : List (String × Value)}
    (hvalues : ∀ member ∈ members, ∀ rest, EndsNumber rest →
      readValue depth (member.2.print ++ rest) = .ok (member.2, rest)) (rest : List Char) :
    Shape (depth + 1) ((Value.object members).print ++ rest) (.object members) rest := by
  rw [Value.print_object_append]
  refine .object (items_commaSeparated (by decide) rfl (endsNumber_brace rest) ?_ ?_)
  · intro member _ tail
    rw [List.append_assoc]
    exact startsItem_printString member.1 _
  · exact fun member hmem rest hrest ↦ readEntry_print (hvalues member hmem rest hrest)

theorem shape_print
    (hinner : ∀ inner < depth, ∀ v : Value, v.Fits inner → ∀ rest, EndsNumber rest →
      readValue inner (v.print ++ rest) = .ok (v, rest))
    (h : v.Fits depth) (hrest : EndsNumber rest) : Shape depth (v.print ++ rest) v rest := by
  cases v with
  | null => exact .null depth rest
  | bool b =>
    cases b with
    | true => exact .yes depth rest
    | false => exact .no depth rest
  | number n =>
    cases n with
    | float => exact absurd h (by simp [Value.Fits])
    | integer i =>
      have hbounds : -(signedLimit : Int) ≤ i ∧ i < wordLimit := by simpa only [Value.Fits] using h
      have hread := readNumber_printInt hbounds.1 hbounds.2 hrest
      obtain ⟨c, cs, heq, hc⟩ := printInt_eq_cons i
      rw [heq] at hread
      rw [Value.print, Number.print, heq]
      exact .number hc hread
  | text s =>
    obtain ⟨tail, htail, hread⟩ := readString_printString s rest
    rw [Value.print, htail]
    exact .text hread
  | array items =>
    cases depth with
    | zero => exact absurd h id
    | succ depth =>
      have hitems : ∀ v ∈ items, v.Fits depth := h
      rw [Value.print_array_append]
      refine .array (items_commaSeparated (by decide) rfl (endsNumber_bracket rest) ?_ ?_)
      · exact fun v hmem tail ↦ startsItem_print (.inl rfl) (hitems v hmem) tail
      · exact fun v hmem rest hrest ↦ hinner depth (Nat.lt_succ_self _) v (hitems v hmem) rest hrest
  | object members =>
    cases depth with
    | zero => exact absurd h id
    | succ depth =>
      have hmembers : ∀ member ∈ members, member.2.Fits depth := h.2
      exact shape_print_object (fun member hmem ↦
        hinner depth (Nat.lt_succ_self _) member.2 (hmembers member hmem)) rest

/-- **A printed value** is read back. -/
theorem readValue_print (h : v.Fits depth) (hrest : EndsNumber rest) :
    readValue depth (v.print ++ rest) = .ok (v, rest) := by
  induction depth using Nat.strongRecOn generalizing v rest with
  | _ depth ih =>
    have hshape := shape_print (fun inner hinner v hv rest hrest ↦ ih inner hinner hv hrest) h hrest
    obtain ⟨c, tail, htext, hgap, -⟩ := startsItem_print (.inl rfl) h rest
    refine readValue_eq_ok.2 ?_
    rw [htext] at hshape ⊢
    rwa [skipGaps_cons hgap]

/-- **A printed text** is the text of its value. -/
theorem readText_compact (h : v.Fits depthLimit) : readText v.compact.toList = some v := by
  have hread := readValue_print h endsNumber_nil
  rw [List.append_nil] at hread
  rw [Value.compact, String.toList_ofList, readText, hread]
  rfl

theorem readText_compact_object {members : List (String × Value)}
    (h : ∀ member ∈ members, member.2.Fits (depthLimit - 1)) :
    readText (Value.object members).compact.toList = some (.object members) := by
  have hshape := shape_print_object (fun member hmem _ ↦ readValue_print (h member hmem)) []
  have hread : readValue depthLimit (Value.object members).print = .ok (.object members, []) := by
    refine readValue_eq_ok.2 ?_
    rw [List.append_nil] at hshape
    rw [Value.print] at hshape ⊢
    rwa [List.cons_append, skipGaps_cons rfl]
  rw [Value.compact, String.toList_ofList, readText, hread]
  rfl

theorem parse_compact (h : v.Fits depthLimit) : parse v.compact = some v.canonical := by
  rw [parse, readText_compact h, Option.map_some]

end MonitorCore.Json

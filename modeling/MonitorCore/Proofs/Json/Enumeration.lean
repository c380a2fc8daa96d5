import MonitorCore.Proofs.Json.Agreement

/-!
# Enumerations, from text and from values

A name stands alone or as the only key of an object with the value null. Read from a text, the
object form is four lexemes one after the other; read from a value, it is a list of one member. Both
refuse an object with no member or with several.
-/

namespace MonitorCore.Json

variable {α β : Type} {depth : Nat} {cs rest : List Char} {v : Value}

namespace Variants

variable (variants : Variants α)

theorem readName_gives {name : String} (h : readString cs = .ok (name, rest)) :
    Gives (variants.readName cs) (variants.ofName name).toOption rest := by
  rw [readName, h, Reading.andThen_ok]
  split
  · next hname => rw [hname]; exact .of_eq rfl
  · next hname => rw [hname]; exact .of_error rfl

def unit? : Value → Option Unit
  | .null => some ()
  | _ => none

theorem readUnit_gives (h : readValue depth cs = .ok (v, rest)) :
    Gives (readUnit cs) (unit? v) rest := by
  have hshape := readValue_eq_ok.1 h
  rw [readUnit]
  generalize skipGaps cs = text at hshape
  cases hshape with
  | null => exact .of_eq rfl
  | yes | no | text | array | object => exact .of_refuse ..
  | number hc =>
    split
    · next heq => exact absurd (List.cons.inj heq).1 (ne_of_startsNumber hc rfl)
    · exact .of_refuse ..

/-- What the object form holds: a name with the value null, and no other member. -/
def ofMembers? : List (String × Value) → Option α
  | [] => none
  | (name, content) :: more =>
    (variants.ofName name).toOption.bind fun x ↦
      (unit? content).bind fun _ ↦ (if more = [] then some () else none).map fun _ ↦ x

theorem expectMark_gives {item : List Char → β → List Char → Prop} {close : Char} {xs : List β}
    (hclose : close ≠ ',') (h : Items close item false cs xs rest) :
    Gives (expectMark close cs) (if xs = [] then some () else none) rest := by
  cases h with
  | nil hmore =>
    rcases moreItems_cases hmore with ⟨-, hcs⟩ | ⟨hmore, -⟩ | ⟨hmore, -⟩
    · exact expectMark_eq_ok.2 hcs
    · exact absurd hmore nofun
    · exact absurd hmore nofun
  | cons hmore =>
    rcases moreItems_cases hmore with ⟨hmore, -⟩ | ⟨-, hfirst, -⟩ | ⟨-, -, tail, hcs, -⟩
    · exact absurd hmore nofun
    · exact absurd hfirst nofun
    · rw [expectMark, hcs]
      simp only [if_neg hclose.symm]
      exact .of_error rfl

theorem ofText_gives_of_members {members : List (String × Value)} {tail : List Char}
    (hcs : skipGaps cs = '{' :: tail)
    (h : Items '}' (fun cs member rest ↦ readEntry depth cs = .ok (member, rest)) true tail members
      rest) :
    Gives (variants.ofText cs)
      (variants.ofMembers? members) rest := by
  simp only [ofText, hcs]
  cases h with
  | nil hmore =>
    rcases moreItems_cases hmore with ⟨-, htail⟩ | ⟨hmore, -⟩ | ⟨hmore, -⟩
    · rw [htail]; exact .of_refuse ..
    · exact absurd hmore nofun
    · exact absurd hmore nofun
  | @cons _ _ _ _ _ member _ hmore hentry hmembers =>
    obtain ⟨name, content⟩ := member
    obtain ⟨inner, mid, next, rfl, hname, hmark, hcontent⟩ := readEntry_eq_ok.1 hentry
    rcases moreItems_cases hmore with ⟨hmore, -⟩ | ⟨-, -, htail⟩ | ⟨-, hfirst, -⟩
    · exact absurd hmore nofun
    · rw [htail]
      refine (variants.readName_gives hname).andThen fun x _ ↦ ?_
      rw [hmark, Reading.andThen_ok]
      refine (readUnit_gives hcontent).andThen fun _ _ ↦ ?_
      exact (expectMark_gives (by decide) hmembers).map _
    · exact absurd hfirst nofun

theorem toOption_ofValue_object {members : List (String × Value)}
    (h : (members.map Prod.fst).Nodup) :
    (variants.ofValue (Value.object members).canonical).toOption = variants.ofMembers? members := by
  match members with
  | [] => rfl
  | [(name, content)] =>
    rw [Value.canonical_object_single, ofValue, ofMembers?]
    cases variants.ofName name with
    | error reason => rfl
    | ok x => cases content <;> rfl
  | (name, content) :: second :: more =>
    have hnone : variants.ofMembers? ((name, content) :: second :: more) = none := by
      rw [ofMembers?, if_neg nofun]
      cases (variants.ofName name).toOption <;> cases unit? content <;> rfl
    obtain ⟨first', second', members', heq⟩ := Value.canonical_object_several h
    rw [hnone, heq]
    rfl

/-- **Enumerations** are read alike from texts and from values. -/
theorem agreesAt_format (depth : Nat) : variants.format.AgreesAt depth := by
  intro cs v rest hv hunrepeated
  have hshape := readValue_eq_ok.1 hv
  generalize hcs : skipGaps cs = text at hshape
  cases hshape with
  | null | yes | no | array => simp only [format, ofText, hcs]; exact .of_error rfl
  | number hc =>
    have hquote := ne_of_startsNumber hc (rfl : startsNumber '"' = false)
    have hbrace := ne_of_startsNumber hc (rfl : startsNumber '{' = false)
    simp only [format, ofText, hcs]
    split
    · next heq => exact absurd (List.cons.inj heq).1 hquote
    · next heq => exact absurd (List.cons.inj heq).1 hbrace
    · exact .of_error rfl
  | text hs => simp only [format, ofText, hcs]; exact variants.readName_gives hs
  | object hmembers =>
    have htext := variants.ofText_gives_of_members hcs hmembers
    rwa [← variants.toOption_ofValue_object (Value.unrepeated_object.1 hunrepeated).1] at htext

/-! ## Two enumerations -/

theorem named?_object_several (first second : String × Value) (members : List (String × Value)) :
    variants.named? (.object (first :: second :: members)) = none := by
  obtain ⟨name, content⟩ := first
  cases content <;> rfl

theorem named?_canonical (h : v.Unrepeated) : variants.named? v.canonical = variants.named? v := by
  cases v with
  | null | bool | number | text | array => rfl
  | object members =>
    match members with
    | [] => rfl
    | [(name, content)] =>
      rw [Value.canonical_object_single]
      cases content <;> rfl
    | first :: second :: more =>
      obtain ⟨_, _, _, heq⟩ := Value.canonical_object_several (Value.unrepeated_object.1 h).1
      rw [heq, named?_object_several, named?_object_several]

end Variants

/-- A value of two enumerations is built first, down to the depth of whole texts. -/
theorem agreesAt_eitherVariant (name : String) (first : Variants α) (second : Variants β) :
    (eitherVariant name first second).AgreesAt depthLimit := by
  intro cs v rest hv hunrepeated
  simp only [eitherVariant, hv, Reading.andThen_ok]
  have hchoose : eitherVariant.choose name first second v.canonical =
      eitherVariant.choose name first second v := by
    simp only [eitherVariant.choose, Variants.named?_canonical _ hunrepeated]
  rw [hchoose]
  split
  · next h => rw [h]; exact .of_eq rfl
  · next h => rw [h]; exact .of_error rfl

end MonitorCore.Json

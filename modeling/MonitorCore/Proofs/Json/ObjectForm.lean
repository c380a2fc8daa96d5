import Mathlib.Data.List.Forall2
import MonitorCore.Proofs.Json.Members
import MonitorCore.Proofs.Text.Override

/-!
# Records in object form

What a record is in an object is told by the fields of its type: the key of each, the format of its
values, and the default that it has where it is absent, if it has one (`FieldRule`). `DecodesByKey`
says this in full, of the record that is read and of the fault that is reported.

Two orders meet in a fault. A value that does not decode is found on the walk over the object, so
the first key counts; that a field is absent is found afterwards, so the first field of the type
counts, and any value that does not decode comes before it.
-/

namespace MonitorCore.Json

open Text (KeyMap)

/-! ## The first of a kind -/

/-- The element is the first one in the list that has the property. -/
def First {α : Type*} (P : α → Prop) (xs : List α) (x : α) : Prop :=
  ∃ before after, xs = before ++ x :: after ∧ (∀ earlier ∈ before, ¬ P earlier) ∧ P x

namespace First

variable {α : Type*} {P Q : α → Prop} {x y : α} {xs : List α}

theorem head (hx : P x) (xs : List α) : First P (x :: xs) x := ⟨[], xs, rfl, nofun, hx⟩

theorem cons (h : First P xs x) (hy : ¬ P y) : First P (y :: xs) x := by
  obtain ⟨before, after, rfl, hbefore, hx⟩ := h
  exact ⟨y :: before, after, rfl, List.forall_mem_cons.mpr ⟨hy, hbefore⟩, hx⟩

theorem mem (h : First P xs x) : x ∈ xs := by
  obtain ⟨before, after, rfl, -⟩ := h
  exact List.mem_append_right _ (.head _)

theorem holds (h : First P xs x) : P x := by
  obtain ⟨-, -, -, -, hx⟩ := h
  exact hx

theorem congr (h : First P xs x) (hPQ : ∀ y ∈ xs, P y ↔ Q y) : First Q xs x := by
  obtain ⟨before, after, rfl, hbefore, hx⟩ := h
  refine ⟨before, after, rfl, fun earlier hearlier ↦ ?_, (hPQ x (by simp)).mp hx⟩
  exact (not_congr (hPQ earlier (List.mem_append_left _ hearlier))).mp (hbefore earlier hearlier)

theorem eq (h : First P xs x) (h' : First P xs y) : x = y := by
  classical
  have hfind : ∀ {z}, First P xs z → xs.find? (fun w ↦ decide (P w)) = some z := by
    rintro z ⟨before, after, rfl, hbefore, hz⟩
    exact List.find?_eq_some_iff_append.mpr ⟨by simpa, before, after, rfl, by simpa⟩
  exact Option.some.inj ((hfind h).symm.trans (hfind h'))

theorem cons_iff : First P (y :: xs) x ↔ P y ∧ x = y ∨ ¬ P y ∧ First P xs x := by
  constructor
  · intro h
    by_cases hy : P y
    · exact .inl ⟨hy, h.eq (head hy xs)⟩
    · obtain ⟨before, after, heq, hbefore, hx⟩ := h
      refine .inr ⟨hy, ?_⟩
      cases before with
      | nil => exact absurd ((List.cons.inj heq).1 ▸ hx) hy
      | cons first before =>
        exact ⟨before, after, (List.cons.inj heq).2, fun z hz ↦ hbefore z (.tail _ hz), hx⟩
  · rintro (⟨hy, rfl⟩ | ⟨hy, h⟩)
    · exact head hy xs
    · exact h.cons hy

end First

/-- The first element that a test finds, told by its partner in another list. -/
theorem find?_cases {α : Type*} {β : Type*} {R : α → β → Prop} {P : α → Prop} {q : β → Bool}
    {xs : List α} {ys : List β} (h : List.Forall₂ R xs ys)
    (hq : ∀ {x y}, R x y → (q y = true ↔ P x)) :
    (ys.find? q = none ∧ ∀ x ∈ xs, ¬ P x) ∨
      ∃ x y, ys.find? q = some y ∧ First P xs x ∧ R x y := by
  induction h with
  | nil => exact .inl ⟨rfl, nofun⟩
  | @cons x y xs ys hxy hrest ih =>
    by_cases hx : P x
    · exact .inr ⟨x, y, List.find?_cons_of_pos ((hq hxy).mpr hx), .head hx xs, hxy⟩
    · rw [List.find?_cons_of_neg fun hy ↦ hx ((hq hxy).mp hy)]
      rcases ih with ⟨hnone, hall⟩ | ⟨x', y', hfind, hfirst, hxy'⟩
      · exact .inl ⟨hnone, List.forall_mem_cons.mpr ⟨hx, hall⟩⟩
      · exact .inr ⟨x', y', hfind, hfirst.cons hx, hxy'⟩

/-! ## Fields -/

/-- A field of the records of type `ρ`, as the type declares it. -/
structure FieldRule (ρ : Type) where
  {α : Type}
  key : String
  format : Format α
  /-- What the field has where it is absent; none if it is required. -/
  default : Option α
  get : ρ → α

variable {ρ : Type}

namespace FieldRule

variable (rule : FieldRule ρ) (members : KeyMap Value)

/-- The value of the field: that of its member decoded, or the default without such a member. -/
def Gives (x : rule.α) : Prop :=
  match members.get? rule.key with
  | some v => rule.format.ofValue v = .ok x
  | none => rule.default = some x

/-- The field is present, unless it has a default, and its value decodes if it is present. -/
def Supplied : Prop :=
  match members.get? rule.key with
  | some v => ∃ x, rule.format.ofValue v = .ok x
  | none => rule.default ≠ none

def Absent : Prop := rule.default = none ∧ members.get? rule.key = none

end FieldRule

/-- The value of the member does not decode at the type of its field, for this reason. -/
def Misfit (rules : List (FieldRule ρ)) (member : String × Value) (reason : Mismatch) : Prop :=
  ∃ rule ∈ rules, rule.key = member.1 ∧ rule.format.ofValue member.2 = .error reason

/-- The value of the member does not decode, for whatever reason. -/
def Unfit (rules : List (FieldRule ρ)) (member : String × Value) : Prop :=
  ∃ reason, Misfit rules member reason

/-- Objects, their members in key order, are decoded by the rules of the fields. -/
structure DecodesByKey (rules : List (FieldRule ρ)) (format : Format ρ) : Prop where
  /-- Decoding succeeds if no required field is absent and every value decodes. -/
  succeeds_iff : ∀ {members : KeyMap Value}, members.Ordered →
    ((∃ record, format.ofValue (.object members) = .ok record) ↔
      ∀ rule ∈ rules, rule.Supplied members)
  /-- The record is the one whose fields have their decoded values or their defaults. -/
  eq_ok_iff : ∀ {members : KeyMap Value}, members.Ordered → ∀ record,
    format.ofValue (.object members) = .ok record ↔
      ∀ rule ∈ rules, rule.Gives members (rule.get record)
  /-- The fault is that of the first value that does not decode, or else, if all decode, of the
  first field that is absent. -/
  eq_error_iff : ∀ {members : KeyMap Value}, members.Ordered → ∀ reason,
    format.ofValue (.object members) = .error reason ↔
      (∃ member, First (Unfit rules) members member ∧ Misfit rules member reason) ∨
        (∀ member ∈ members, ¬ Unfit rules member) ∧
          ∃ rule, First (fun rule ↦ rule.Absent members) rules rule ∧
            reason = .missingField rule.key
  /-- Members with unknown keys have no effect. -/
  ignores : ∀ members : KeyMap Value,
    format.ofValue (.object members) =
      format.ofValue (.object (members.filter fun member ↦ member.1 ∈ rules.map FieldRule.key))
  /-- Null is no value of a field with a default, unless it is optional. -/
  null_fails : ∀ rule ∈ rules, rule.default ≠ none → rule.key ≠ "log_dir" →
    ∃ reason, rule.format.ofValue .null = .error reason

/-! ## Slots and the fields they fill -/

/-- The slot decodes values as the field does and changes this field of a record alone. -/
structure FieldRule.FilledBy (rules : List (FieldRule ρ)) (rule : FieldRule ρ) (slot : Slot ρ) :
    Prop where
  key : slot.key = rule.key
  required : slot.required = rule.default.isNone
  error : ∀ {v reason}, rule.format.ofValue v = .error reason → slot.ofValue v = .error reason
  ok : ∀ {v x}, rule.format.ofValue v = .ok x → ∃ update, slot.ofValue v = .ok update ∧
    ∀ record, rule.get (update record) = x ∧
      ∀ other ∈ rules, other.key ≠ rule.key → other.get (update record) = other.get record

/-- The slots of a record fill the fields that the rules are about, in the same order. -/
structure RecordFormat.Fills (format : RecordFormat ρ) (rules : List (FieldRule ρ)) : Prop where
  slots : List.Forall₂ (FieldRule.FilledBy rules) rules format.slots
  keys : (rules.map FieldRule.key).Nodup
  blank : ∀ rule ∈ rules, ∀ x, rule.default = some x → rule.get format.blank = x
  ext : ∀ {record other : ρ}, (∀ rule ∈ rules, rule.get record = rule.get other) → record = other

theorem FieldRule.filledBy_of {α : Type} {rules : List (FieldRule ρ)} {key : String}
    {format : Format α} {default : Option α} {get : ρ → α} {set : α → ρ → ρ}
    (hget : ∀ x record, get (set x record) = x)
    (hother : ∀ other ∈ rules, other.key ≠ key →
      ∀ x record, other.get (set x record) = other.get record) :
    FilledBy rules ⟨key, format, default, get⟩ (.of key default.isNone format get set) where
  key := rfl
  required := rfl
  error {v reason} h := by
    have hv : format.ofValue v = .error reason := h
    simp only [Slot.of, hv, Except.map]
  ok {v x} h := by
    have hv : format.ofValue v = .ok x := h
    refine ⟨set x, by simp only [Slot.of, hv, Except.map], fun record ↦ ⟨hget x record, ?_⟩⟩
    exact fun other hmem hne ↦ hother other hmem hne x record

namespace RecordFormat

variable {format : RecordFormat ρ} {rules : List (FieldRule ρ)} {members : KeyMap Value}
  {draft draft' : Draft ρ}

theorem Fills.slot?_cases (h : format.Fills rules) (key : String) :
    (format.slot? key = none ∧ ∀ rule ∈ rules, rule.key ≠ key) ∨
      ∃ rule ∈ rules, rule.key = key ∧
        ∃ slot, format.slot? key = some slot ∧ rule.FilledBy rules slot := by
  have htest : ∀ {rule : FieldRule ρ} {slot}, rule.FilledBy rules slot →
      ((slot.key == key) = true ↔ rule.key = key) := by
    intro rule slot hfilled
    rw [beq_iff_eq, hfilled.key]
  rcases find?_cases h.slots htest with hnone | ⟨rule, slot, hslot, hfirst, hfilled⟩
  · exact .inl hnone
  · exact .inr ⟨rule, hfirst.mem, hfirst.holds, slot, hslot, hfilled⟩

/-- The record is ended unless a required field has not been seen. -/
theorem Fills.finish_cases (h : format.Fills rules) (draft : Draft ρ) :
    (format.finish draft = .ok draft.record ∧
      ∀ rule ∈ rules, ¬ (rule.default = none ∧ rule.key ∉ draft.seen)) ∨
    ∃ rule, First (fun rule ↦ rule.default = none ∧ rule.key ∉ draft.seen) rules rule ∧
      format.finish draft = .error (.missingField rule.key) := by
  have htest : ∀ {rule : FieldRule ρ} {slot}, rule.FilledBy rules slot →
      ((slot.required && !draft.seen.contains slot.key) = true ↔
        rule.default = none ∧ rule.key ∉ draft.seen) := by
    intro rule slot hfilled
    rw [hfilled.key, hfilled.required]
    simp
  rcases find?_cases h.slots htest with ⟨hnone, hall⟩ | ⟨rule, slot, hslot, hfirst, hfilled⟩
  · exact .inl ⟨by rw [finish, hnone], hall⟩
  · exact .inr ⟨rule, hfirst, by rw [finish, hslot, ← hfilled.key]⟩

/-! ## One member after the other -/

/-- What a walk over members makes of a draft: the fields that have members are decoded, the others
are as before, and what was seen has been noted. -/
structure Reads (rules : List (FieldRule ρ)) (members : KeyMap Value) (draft draft' : Draft ρ) :
    Prop where
  given : ∀ rule ∈ rules, ∀ v, members.get? rule.key = some v →
    rule.format.ofValue v = .ok (rule.get draft'.record)
  kept : ∀ rule ∈ rules, members.get? rule.key = none →
    rule.get draft'.record = rule.get draft.record
  seen : ∀ rule ∈ rules, rule.key ∈ draft'.seen ↔
    rule.key ∈ draft.seen ∨ members.get? rule.key ≠ none

theorem Reads.nil (rules : List (FieldRule ρ)) (draft : Draft ρ) : Reads rules [] draft draft where
  given := nofun
  kept _ _ _ := rfl
  seen _ _ := by simp

theorem Reads.cons_unknown {key : String} (h : Reads rules members draft draft')
    (hkey : ∀ rule ∈ rules, rule.key ≠ key) (v : Value) :
    Reads rules ((key, v) :: members) draft draft' := by
  have hget : ∀ rule ∈ rules, KeyMap.get? rule.key ((key, v) :: members) =
      members.get? rule.key := fun rule hrule ↦ by
    rw [KeyMap.get?_cons, if_neg (hkey rule hrule).symm]
  refine ⟨fun rule hrule ↦ ?_, fun rule hrule ↦ ?_, fun rule hrule ↦ ?_⟩
  · rw [hget rule hrule]
    exact h.given rule hrule
  · rw [hget rule hrule]
    exact h.kept rule hrule
  · rw [hget rule hrule]
    exact h.seen rule hrule

theorem Fills.rule_eq (h : format.Fills rules) {rule other : FieldRule ρ} (hrule : rule ∈ rules)
    (hother : other ∈ rules) (hkey : rule.key = other.key) : rule = other :=
  List.inj_on_of_nodup_map h.keys hrule hother hkey

theorem Reads.cons_known (hfills : format.Fills rules) {rule : FieldRule ρ} {v : Value} {x : rule.α}
    {update : ρ → ρ} (hrule : rule ∈ rules) (hv : rule.format.ofValue v = .ok x)
    (hupdate : ∀ record, rule.get (update record) = x ∧
      ∀ other ∈ rules, other.key ≠ rule.key → other.get (update record) = other.get record)
    (hfresh : rule.key ∉ members.map Prod.fst)
    (h : Reads rules members ⟨update draft.record, rule.key :: draft.seen⟩ draft') :
    Reads rules ((rule.key, v) :: members) draft draft' := by
  refine ⟨fun other hother w hw ↦ ?_, fun other hother hnone ↦ ?_, fun other hother ↦ ?_⟩
  · rw [KeyMap.get?_cons] at hw
    by_cases hkey : rule.key = other.key
    · -- no later member has this key, so the field stays as this one has set it
      obtain rfl := hfills.rule_eq hrule hother hkey
      rw [if_pos rfl] at hw
      obtain rfl : v = w := Option.some.inj hw
      rw [hv, h.kept rule hrule (KeyMap.get?_eq_none_iff.mpr hfresh), (hupdate _).1]
    · rw [if_neg hkey] at hw
      exact h.given other hother w hw
  · rw [KeyMap.get?_cons] at hnone
    by_cases hkey : rule.key = other.key
    · rw [if_pos hkey] at hnone
      exact nomatch hnone
    · rw [if_neg hkey] at hnone
      rw [h.kept other hother hnone, (hupdate _).2 other hother (Ne.symm hkey)]
  · rw [h.seen other hother, KeyMap.get?_cons, List.mem_cons]
    by_cases hkey : rule.key = other.key
    · simp [hkey]
    · simp [hkey, Ne.symm hkey]

theorem Fills.not_unfit (h : format.Fills rules) {rule : FieldRule ρ} {v : Value} {x : rule.α}
    (hrule : rule ∈ rules) (hv : rule.format.ofValue v = .ok x) : ¬ Unfit rules (rule.key, v) := by
  rintro ⟨reason, other, hother, hkey, herror⟩
  obtain rfl := h.rule_eq hother hrule hkey
  exact nomatch hv.symm.trans herror

/-- **The walk over the members** comes to the first one that does not decode, or reads them all. -/
theorem Fills.readMembers_cases (h : format.Fills rules) (hnodup : (members.map Prod.fst).Nodup)
    (hfresh : ∀ member ∈ members, member.1 ∉ draft.seen) :
    (∃ reason, format.readMembers draft members = .error reason ∧
      ∃ member, First (Unfit rules) members member ∧ Misfit rules member reason) ∨
    ∃ draft', format.readMembers draft members = .ok draft' ∧
      (∀ member ∈ members, ¬ Unfit rules member) ∧ Reads rules members draft draft' := by
  induction members generalizing draft with
  | nil => exact .inr ⟨draft, rfl, nofun, .nil rules draft⟩
  | cons member members ih =>
    obtain ⟨key, v⟩ := member
    rw [List.map_cons, List.nodup_cons] at hnodup
    obtain ⟨hkey, hrest⟩ := List.forall_mem_cons.mp hfresh
    rw [readMembers]
    -- a member that no field wants is passed over, so it is never the first that does not decode
    rcases h.slot?_cases key with ⟨hnone, hunknown⟩ | ⟨rule, hrule, rfl, slot, hslot, hfilled⟩
    · have hfits : ¬ Unfit rules (key, v) := by
        rintro ⟨-, rule, hrule, heq, -⟩
        exact hunknown rule hrule heq
      rw [hnone]
      rcases ih hnodup.2 hrest with
        ⟨reason, herror, member, hfirst, hmisfit⟩ | ⟨draft', hok, hall, hreads⟩
      · exact .inl ⟨reason, herror, member, hfirst.cons hfits, hmisfit⟩
      · exact .inr ⟨draft', hok, List.forall_mem_cons.mpr ⟨hfits, hall⟩,
          hreads.cons_unknown hunknown v⟩
    · have hseen : draft.seen.contains rule.key = false := by simpa using hkey
      rw [hslot]
      dsimp only
      rw [hseen, if_neg Bool.false_ne_true]
      cases hv : rule.format.ofValue v with
      | error reason =>
        have hmisfit : Misfit rules (rule.key, v) reason := ⟨rule, hrule, rfl, hv⟩
        rw [hfilled.error hv]
        exact .inl ⟨reason, rfl, (rule.key, v), .head ⟨reason, hmisfit⟩ members, hmisfit⟩
      | ok x =>
        obtain ⟨update, hupdate, hsets⟩ := hfilled.ok hv
        have hfits := h.not_unfit hrule hv
        have hlater : ∀ member ∈ members, member.1 ∉ rule.key :: draft.seen := by
          intro member hmember
          rw [List.mem_cons, not_or]
          exact ⟨KeyMap.ne_of_not_mem_keys hnodup.1 hmember, hrest member hmember⟩
        rw [hupdate]
        rcases @ih ⟨update draft.record, rule.key :: draft.seen⟩ hnodup.2 hlater with
          ⟨reason, herror, member, hfirst, hmisfit⟩ | ⟨draft', hok, hall, hreads⟩
        · exact .inl ⟨reason, herror, member, hfirst.cons hfits, hmisfit⟩
        · exact .inr ⟨draft', hok, List.forall_mem_cons.mpr ⟨hfits, hall⟩,
            hreads.cons_known h hrule hv hsets hnodup.1⟩

/-! ## The object -/

/-- After a walk from the blank record each field that is not absent has its value. -/
theorem Reads.gives (hfills : format.Fills rules) (h : Reads rules members ⟨format.blank, []⟩ draft)
    {rule : FieldRule ρ} (hrule : rule ∈ rules) (hpresent : ¬ rule.Absent members) :
    rule.Gives members (rule.get draft.record) := by
  rw [FieldRule.Gives]
  cases hget : members.get? rule.key with
  | some v => exact h.given rule hrule v hget
  | none =>
    cases hdefault : rule.default with
    | none => exact absurd ⟨hdefault, hget⟩ hpresent
    | some x =>
      dsimp only
      rw [h.kept rule hrule hget, hfills.blank rule hrule x hdefault]

/-- **Three ends.** The walk over the members comes to one that does not decode, a required field is
absent, or there is a record whose fields have their values. -/
theorem Fills.ofValue_cases (h : format.Fills rules) (hordered : members.Ordered) :
    (∃ reason, format.ofValue (.object members) = .error reason ∧
      ∃ member, First (Unfit rules) members member ∧ Misfit rules member reason) ∨
    (∀ member ∈ members, ¬ Unfit rules member) ∧
      ((∃ rule, First (fun rule ↦ rule.Absent members) rules rule ∧
        format.ofValue (.object members) = .error (.missingField rule.key)) ∨
      ∃ record, format.ofValue (.object members) = .ok record ∧
        (∀ rule ∈ rules, ¬ rule.Absent members) ∧
        ∀ rule ∈ rules, rule.Gives members (rule.get record)) := by
  have hwalk := @Fills.readMembers_cases _ _ _ _ ⟨format.blank, []⟩ h hordered.nodup
    fun _ _ ↦ List.not_mem_nil
  rw [ofValue]
  rcases hwalk with ⟨reason, herror, hfirst⟩ | ⟨draft, hok, hall, hreads⟩
  · rw [herror]
    exact .inl ⟨reason, rfl, hfirst⟩
  · rw [hok]
    refine .inr ⟨hall, ?_⟩
    have habsent : ∀ rule ∈ rules,
        rule.default = none ∧ rule.key ∉ draft.seen ↔ rule.Absent members := by
      intro rule hrule
      rw [hreads.seen rule hrule, FieldRule.Absent]
      simp
    rcases h.finish_cases draft with ⟨hfinish, hseen⟩ | ⟨rule, hfirst, hfinish⟩
    · have hpresent : ∀ rule ∈ rules, ¬ rule.Absent members := fun rule hrule ↦
        (not_congr (habsent rule hrule)).mp (hseen rule hrule)
      exact .inr ⟨draft.record, hfinish, hpresent,
        fun rule hrule ↦ hreads.gives h hrule (hpresent rule hrule)⟩
    · exact .inl ⟨rule, hfirst.congr habsent, hfinish⟩

theorem Fills.misfit_eq (h : format.Fills rules) {member : String × Value}
    {reason reason' : Mismatch} (hmisfit : Misfit rules member reason)
    (hmisfit' : Misfit rules member reason') : reason = reason' := by
  obtain ⟨rule, hrule, hkey, herror⟩ := hmisfit
  obtain ⟨rule', hrule', hkey', herror'⟩ := hmisfit'
  obtain rfl := h.rule_eq hrule hrule' (hkey.trans hkey'.symm)
  exact Except.error.inj (herror.symm.trans herror')

end RecordFormat

/-! ## Fields with values -/

section

variable {rule : FieldRule ρ} {rules : List (FieldRule ρ)} {members : KeyMap Value}

theorem FieldRule.not_absent_of_supplied (h : rule.Supplied members) : ¬ rule.Absent members := by
  rintro ⟨hdefault, hnone⟩
  rw [Supplied, hnone] at h
  exact h hdefault

theorem FieldRule.Gives.supplied {x : rule.α} (h : rule.Gives members x) :
    rule.Supplied members := by
  rw [Gives] at h
  rw [Supplied]
  cases hget : members.get? rule.key with
  | some v =>
    rw [hget] at h
    exact ⟨x, h⟩
  | none =>
    rw [hget] at h
    exact fun hnone ↦ nomatch hnone.symm.trans h

theorem FieldRule.Gives.eq {x y : rule.α} (h : rule.Gives members x) (h' : rule.Gives members y) :
    x = y := by
  rw [Gives] at h h'
  cases hget : members.get? rule.key with
  | some v =>
    rw [hget] at h h'
    exact Except.ok.inj (h.symm.trans h')
  | none =>
    rw [hget] at h h'
    exact Option.some.inj (h.symm.trans h')

theorem not_unfit_of_supplied (hordered : members.Ordered)
    (hsupplied : ∀ rule ∈ rules, rule.Supplied members) {member : String × Value}
    (hmember : member ∈ members) : ¬ Unfit rules member := by
  rintro ⟨reason, rule, hrule, hkey, herror⟩
  have hrule' := hsupplied rule hrule
  rw [FieldRule.Supplied, hkey, KeyMap.get?_of_mem hordered.nodup hmember] at hrule'
  obtain ⟨x, hx⟩ := hrule'
  exact nomatch hx.symm.trans herror

end

/-! ## Decoding by key -/

namespace RecordFormat

variable {format : RecordFormat ρ} {rules : List (FieldRule ρ)} {members : KeyMap Value}

theorem Fills.ok_of_supplied (h : format.Fills rules) (hordered : members.Ordered)
    (hsupplied : ∀ rule ∈ rules, rule.Supplied members) :
    ∃ record, format.ofValue (.object members) = .ok record ∧
      ∀ rule ∈ rules, rule.Gives members (rule.get record) := by
  rcases h.ofValue_cases hordered with
    ⟨reason, -, member, hfirst, -⟩ | ⟨-, ⟨rule, hfirst, -⟩ | ⟨record, hok, -, hgives⟩⟩
  · exact absurd hfirst.holds (not_unfit_of_supplied hordered hsupplied hfirst.mem)
  · exact absurd hfirst.holds (FieldRule.not_absent_of_supplied (hsupplied rule hfirst.mem))
  · exact ⟨record, hok, hgives⟩

theorem Fills.gives_of_ok (h : format.Fills rules) (hordered : members.Ordered) {record : ρ}
    (hok : format.ofValue (.object members) = .ok record) :
    ∀ rule ∈ rules, rule.Gives members (rule.get record) := by
  rcases h.ofValue_cases hordered with
    ⟨reason, herror, -⟩ | ⟨-, ⟨rule, -, herror⟩ | ⟨record', hok', -, hgives⟩⟩
  · exact nomatch hok.symm.trans herror
  · exact nomatch hok.symm.trans herror
  · rwa [Except.ok.inj (hok.symm.trans hok')]

theorem Fills.eq_ok_iff (h : format.Fills rules) (hordered : members.Ordered) (record : ρ) :
    format.ofValue (.object members) = .ok record ↔
      ∀ rule ∈ rules, rule.Gives members (rule.get record) := by
  refine ⟨h.gives_of_ok hordered, fun hgives ↦ ?_⟩
  obtain ⟨record', hok, hgives'⟩ :=
    h.ok_of_supplied hordered fun rule hrule ↦ (hgives rule hrule).supplied
  rw [hok, h.ext fun rule hrule ↦ (hgives' rule hrule).eq (hgives rule hrule)]

theorem Fills.eq_error_iff (h : format.Fills rules) (hordered : members.Ordered)
    (reason : Mismatch) :
    format.ofValue (.object members) = .error reason ↔
      (∃ member, First (Unfit rules) members member ∧ Misfit rules member reason) ∨
        (∀ member ∈ members, ¬ Unfit rules member) ∧
          ∃ rule, First (fun rule ↦ rule.Absent members) rules rule ∧
            reason = .missingField rule.key := by
  rcases h.ofValue_cases hordered with ⟨found, herror, member, hfirst, hmisfit⟩ |
    ⟨hfits, ⟨rule, hfirst, herror⟩ | ⟨record, hok, hpresent, -⟩⟩
  · constructor
    · intro h'
      exact .inl ⟨member, hfirst, Except.error.inj (herror.symm.trans h') ▸ hmisfit⟩
    · rintro (⟨member', hfirst', hmisfit'⟩ | ⟨hfits, -⟩)
      · obtain rfl := hfirst.eq hfirst'
        rw [herror, h.misfit_eq hmisfit hmisfit']
      · exact absurd hfirst.holds (hfits member hfirst.mem)
  · constructor
    · intro h'
      exact .inr ⟨hfits, rule, hfirst, Except.error.inj (h'.symm.trans herror)⟩
    · rintro (⟨member, hfirst', -⟩ | ⟨-, rule', hfirst', rfl⟩)
      · exact absurd hfirst'.holds (hfits member hfirst'.mem)
      · rw [herror, hfirst.eq hfirst']
  · constructor
    · intro h'
      exact nomatch hok.symm.trans h'
    · rintro (⟨member, hfirst, -⟩ | ⟨-, rule, hfirst, -⟩)
      · exact absurd hfirst.holds (hfits member hfirst.mem)
      · exact absurd hfirst.holds (hpresent rule hfirst.mem)

theorem Fills.isSome_slot? (h : format.Fills rules) (key : String) :
    (format.slot? key).isSome ↔ key ∈ rules.map FieldRule.key := by
  rcases h.slot?_cases key with ⟨hnone, hunknown⟩ | ⟨rule, hrule, rfl, slot, hslot, -⟩
  · simpa [hnone] using hunknown
  · simpa [hslot] using ⟨rule, hrule, rfl⟩

theorem Fills.readMembers_filter (h : format.Fills rules) (draft : Draft ρ)
    (members : KeyMap Value) :
    format.readMembers draft
        (members.filter fun member ↦ member.1 ∈ rules.map FieldRule.key) =
      format.readMembers draft members := by
  induction members generalizing draft with
  | nil => rfl
  | cons member members ih =>
    obtain ⟨key, v⟩ := member
    by_cases hknown : key ∈ rules.map FieldRule.key
    · rw [List.filter_cons_of_pos (by simpa using hknown), readMembers, readMembers]
      obtain ⟨slot, hslot⟩ := Option.isSome_iff_exists.mp ((h.isSome_slot? key).mpr hknown)
      rw [hslot]
      dsimp only
      split
      · rfl
      · cases slot.ofValue v with
        | error reason => rfl
        | ok update => exact ih _
    · rw [List.filter_cons_of_neg (by simpa using hknown), readMembers]
      have hnone : format.slot? key = none :=
        Option.not_isSome_iff_eq_none.mp (mt (h.isSome_slot? key).mp hknown)
      rw [hnone]
      exact ih draft

/-- **Decoding by key**, from the slots of a record. -/
theorem Fills.decodesByKey (h : format.Fills rules)
    (hnull : ∀ rule ∈ rules, rule.default ≠ none → rule.key ≠ "log_dir" →
      ∃ reason, rule.format.ofValue .null = .error reason) :
    DecodesByKey rules format.toFormat where
  succeeds_iff hordered := by
    refine ⟨fun ⟨record, hok⟩ rule hrule ↦ ?_, fun hsupplied ↦ ?_⟩
    · exact (h.gives_of_ok hordered hok rule hrule).supplied
    · obtain ⟨record, hok, -⟩ := h.ok_of_supplied hordered hsupplied
      exact ⟨record, hok⟩
  eq_ok_iff hordered := h.eq_ok_iff hordered
  eq_error_iff hordered := h.eq_error_iff hordered
  ignores members := by
    simp only [toFormat, ofValue, h.readMembers_filter]
  null_fails := hnull

end RecordFormat

end MonitorCore.Json

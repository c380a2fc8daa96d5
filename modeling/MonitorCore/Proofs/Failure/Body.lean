import MonitorCore.Proofs.Failure.FieldMap
import MonitorCore.Proofs.Json.RoundTrip

/-!
# What clients read

The body of a failure is an object with all keys in order, so that its text reads back as this very
object. The text therefore tells the kind of the failure by its title, the message and the field
map; it tells nothing else, neither the rules nor the records that a later one overrides.
-/

namespace MonitorCore

open Json (Value depthLimit parse readText)
open Text (KeyMap)

/-! ## Texts of values -/

namespace Json.Value

variable {v w : Value} {members : KeyMap Value}

theorem compact_inj (hv : v.Fits depthLimit) (hw : w.Fits depthLimit) :
    v.compact = w.compact ↔ v = w := by
  refine ⟨fun h ↦ ?_, congrArg compact⟩
  have hread := readText_compact hv
  rw [h, readText_compact hw] at hread
  exact (Option.some_inj.1 hread).symm

theorem canonical_object_of_ordered (hordered : members.Ordered)
    (hcanonical : ∀ member ∈ members, member.2.canonical = member.2) :
    (object members).canonical = object members := by
  have hmembers : canonicalMembers members = members := by
    calc canonicalMembers members
        = members.map fun member ↦ (member.1, member.2.canonical) := canonicalMembers_eq_map members
      _ = members.map id :=
          List.map_congr_left fun member hmember ↦ Prod.ext rfl (hcanonical member hmember)
      _ = members := List.map_id members
  rw [canonical, hmembers, hordered.ofList_eq]

end Json.Value

/-! ## Titles -/

theorem FailureKind.toJson_format (kind : FailureKind) : format.toJson kind = .text kind.name := by
  cases kind <;> rfl

theorem FailureKind.name_injective : Function.Injective name := by
  intro kind kind' hname
  have hread := (restoresAt_format 0).restores kind
  rw [toJson_format, hname, ← toJson_format, (restoresAt_format 0).restores kind'] at hread
  exact (Except.ok.inj hread).symm

/-- **No title** belongs to two kinds. -/
theorem FailureKind.title_injective : Function.Injective title := by
  intro kind kind' htitle
  have hsplit : ∀ kind : FailureKind, kind.title = kind.name ++ "Error" := fun kind ↦ by
    cases kind <;> rfl
  rw [hsplit, hsplit, String.append_left_inj] at htitle
  exact name_injective htitle

namespace Failure

variable {failure other : Failure}

def fieldsValue (fields : KeyMap String) : Value :=
  .object (fields.map fun entry ↦ (entry.1, .text entry.2))

/-- The members of a body, by increasing key. -/
def bodyMembers (failure : Failure) : KeyMap Value :=
  (failure.fieldMap?.map fun fields ↦ ("errors", fieldsValue fields)).toList ++
    [("message", .text failure.message), ("name", .text failure.kind.title)]

theorem body_eq (failure : Failure) : failure.body = .object failure.bodyMembers := by
  rw [body, bodyMembers]
  cases failure.fieldMap? <;> rfl

/-! ### Field maps as values -/

theorem fieldsValue_inj {fields fields' : KeyMap String} :
    fieldsValue fields = fieldsValue fields' ↔ fields = fields' := by
  have hentry : Function.Injective fun entry : String × String ↦ (entry.1, Value.text entry.2) := by
    rintro ⟨path, message⟩ ⟨path', message'⟩ heq
    simpa using heq
  rw [fieldsValue, fieldsValue, Value.object.injEq, hentry.list_map.eq_iff]

section

variable {fields : KeyMap String} (h : fields.Ordered)
include h

theorem fieldsValue_fits (depth : Nat) : (fieldsValue fields).Fits (depth + 1) := by
  refine ⟨?_, List.forall_mem_map.2 fun _ _ ↦ by simp [Value.Fits]⟩
  rw [List.map_map]
  exact h.nodup

theorem canonical_fieldsValue : (fieldsValue fields).canonical = fieldsValue fields :=
  Value.canonical_object_of_ordered (List.pairwise_map.2 h) (List.forall_mem_map.2 fun _ _ ↦ rfl)

end

/-! ### Members -/

theorem mem_bodyMembers {key : String} {value : Value} : (key, value) ∈ failure.bodyMembers ↔
    key = "name" ∧ value = .text failure.kind.title ∨
    key = "message" ∧ value = .text failure.message ∨
    key = "errors" ∧ ∃ fields, failure.fieldMap? = some fields ∧ value = fieldsValue fields := by
  rw [bodyMembers]
  cases failure.fieldMap? <;> simp <;> tauto

theorem bodyMembers_ordered (failure : Failure) : failure.bodyMembers.Ordered := by
  have herrors : "errors" < "message" := by decide
  have hmessage : "message" < "name" := by decide
  have hsummary : KeyMap.Ordered
      [("message", Value.text failure.message), ("name", .text failure.kind.title)] :=
    List.pairwise_pair.2 hmessage
  rw [bodyMembers]
  cases failure.fieldMap? with
  | none => exact hsummary
  | some fields =>
    exact .cons (List.forall_mem_cons.2 ⟨herrors, List.forall_mem_singleton.2
      (String.lt_trans herrors hmessage)⟩) hsummary

theorem body_fits (failure : Failure) (depth : Nat) : failure.body.Fits (depth + 2) := by
  rw [body_eq]
  refine ⟨failure.bodyMembers_ordered.nodup, fun ⟨key, value⟩ hmember ↦ ?_⟩
  rcases mem_bodyMembers.1 hmember with ⟨-, rfl⟩ | ⟨-, rfl⟩ | ⟨-, fields, hfields, rfl⟩
  · trivial
  · trivial
  · exact fieldsValue_fits (fieldMap?_ordered hfields) depth

theorem canonical_body (failure : Failure) : failure.body.canonical = failure.body := by
  rw [body_eq]
  refine Value.canonical_object_of_ordered failure.bodyMembers_ordered fun ⟨key, value⟩ hmember ↦ ?_
  rcases mem_bodyMembers.1 hmember with ⟨-, rfl⟩ | ⟨-, rfl⟩ | ⟨-, fields, hfields, rfl⟩
  · rfl
  · rfl
  · exact canonical_fieldsValue (fieldMap?_ordered hfields)

/-- **Equal bodies** tell equal kinds, messages and field maps. -/
theorem body_eq_iff : failure.body = other.body ↔
    failure.kind = other.kind ∧ failure.message = other.message ∧
      failure.fieldMap? = other.fieldMap? := by
  rw [body_eq, body_eq, Value.object.injEq]
  constructor
  · intro h
    have hmem : ∀ key value,
        (key, value) ∈ failure.bodyMembers ↔ (key, value) ∈ other.bodyMembers :=
      fun key value ↦ by rw [h]
    have htitle := (hmem "name" (.text failure.kind.title)).1 (by simp [mem_bodyMembers])
    have hmessage := (hmem "message" (.text failure.message)).1 (by simp [mem_bodyMembers])
    refine ⟨FailureKind.title_injective ?_, ?_, Option.ext fun fields ↦ ?_⟩
    · simpa [mem_bodyMembers] using htitle
    · simpa [mem_bodyMembers] using hmessage
    · simpa [mem_bodyMembers, fieldsValue_inj] using hmem "errors" (fieldsValue fields)
  · rintro ⟨hkind, hmessage, hfields⟩
    rw [bodyMembers, bodyMembers, hkind, hmessage, hfields]

end Failure

/-- **A body reads back**: its text is that of an object with the title, the message and, of a
validation failure and of no other, the field map, and without any other member. Two failures have
the same text if and only if they agree in kind, message and field map. -/
theorem body_reads_back (failure : Failure) :
    (∃ members, readText failure.body.compact.toList = some (.object members) ∧
      parse failure.body.compact = some (.object members) ∧ (members.map Prod.fst).Nodup ∧
      ∀ key value, (key, value) ∈ members ↔
        key = "name" ∧ value = .text failure.kind.title ∨
        key = "message" ∧ value = .text failure.message ∨
        key = "errors" ∧ ∃ fields, failure.fieldMap? = some fields ∧
          value = .object (fields.map fun entry ↦ (entry.1, .text entry.2))) ∧
    ((∃ fields, failure.fieldMap? = some fields) ↔ failure.isValidation = true) ∧
    ∀ other : Failure, failure.body.compact = other.body.compact ↔
      failure.kind = other.kind ∧ failure.message = other.message ∧
        failure.fieldMap? = other.fieldMap? := by
  refine ⟨⟨failure.bodyMembers, ?_, ?_, failure.bodyMembers_ordered.nodup,
    fun _ _ ↦ Failure.mem_bodyMembers⟩, ?_, fun other ↦ ?_⟩
  · rw [Json.readText_compact (failure.body_fits _), failure.body_eq]
  · rw [Json.parse_compact (failure.body_fits _), failure.canonical_body, failure.body_eq]
  · cases failure <;> simp [Failure.fieldMap?, Failure.isValidation, Failure.kind,
      FailureKind.isValidation]
  · rw [Json.Value.compact_inj (failure.body_fits _) (other.body_fits _), Failure.body_eq_iff]

end MonitorCore

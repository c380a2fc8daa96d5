import MonitorCore.Failure.Context

/-!
# Chains of wrappings

Each wrapping of a chain shows the failure before it in one line and puts its own words in front. So
the message of the last failure is read from the back: the text of the first error, then link by
link the title of the kind and the operation, and nothing of it is lost or said twice
(`Wrapping.Chained`).

What an operation is called may have to be found out, by an action that changes things. A chain runs
such an action where it needs the words and only there, which is once for each link that has one and
never where there is no error (`Deferred.chain_error`, `Deferred.chain_ok`).
-/

namespace MonitorCore

variable {α σ : Type}

/-! ## Messages along a chain -/

namespace Wrapping

/-- What a wrapping puts in front of the text of an error. -/
def lead (wrapping : Wrapping) : String :=
  match wrapping.operation with
  | none => ""
  | some operation => operation ++ ": "

theorem failure_eq (wrapping : Wrapping) (cause : Cause) :
    wrapping.failure cause = .simple wrapping.kind (wrapping.lead ++ cause.text) := by
  rw [failure, lead]
  cases wrapping.operation with
  | none => rw [String.empty_append]
  | some operation => rfl

/-- What the wrappings make of an error with this text, one after the other: failures with these
messages, the operation asked for where there is one. -/
structure Chained (wrappings : List Wrapping) (text : String) (outcomes : List (Outcome α))
    (message : Nat → String) : Prop where
  length : outcomes.length = wrappings.length
  /-- Each failure has the kind of its wrapping and a message, and is shown in one line by both. -/
  outcome : ∀ i wrapping, wrappings[i]? = some wrapping →
    outcomes[i]? =
      some (Outcome.mk (.error (.simple wrapping.kind (message i))) wrapping.operation.isSome)
  first : ∀ wrapping, wrappings[0]? = some wrapping → message 0 = wrapping.lead ++ text
  /-- Each message keeps the failure before it, its title and its message. -/
  next : ∀ i before wrapping, wrappings[i]? = some before → wrappings[i + 1]? = some wrapping →
    message (i + 1) = wrapping.lead ++ (before.kind.title ++ ": " ++ message i)
  /-- The text of the error stands at the end of all messages. -/
  keeps : ∀ i < wrappings.length, ∃ front, message i = front ++ text

theorem Chained.nil (text : String) (message : Nat → String) :
    Chained [] text ([] : List (Outcome α)) message where
  length := rfl
  outcome := by simp
  first := by simp
  next := by simp
  keeps := by simp

/-- One link more in front: the rest of the chain is given the failure that it makes. -/
theorem Chained.cons {wrapping : Wrapping} {wrappings : List Wrapping} {text : String}
    {outcomes : List (Outcome α)} {message : Nat → String}
    (h : Chained wrappings (wrapping.kind.title ++ ": " ++ (wrapping.lead ++ text)) outcomes
      message) :
    Chained (wrapping :: wrappings) text
      (⟨.error (.simple wrapping.kind (wrapping.lead ++ text)), wrapping.operation.isSome⟩
        :: outcomes)
      (fun i ↦ i.casesOn (wrapping.lead ++ text) message) where
  length := by simp [h.length]
  outcome i other hother := by
    cases i with
    | zero =>
      rw [List.getElem?_cons_zero, Option.some_inj] at hother
      subst hother
      rfl
    | succ i =>
      rw [List.getElem?_cons_succ] at hother ⊢
      exact h.outcome i other hother
  first other hother := by
    rw [List.getElem?_cons_zero, Option.some_inj] at hother
    subst hother
    rfl
  next i before other hbefore hother := by
    rw [List.getElem?_cons_succ] at hother
    cases i with
    | zero =>
      rw [List.getElem?_cons_zero, Option.some_inj] at hbefore
      subst hbefore
      exact h.first other hother
    | succ i =>
      rw [List.getElem?_cons_succ] at hbefore
      exact h.next i before other hbefore hother
  keeps i hi := by
    cases i with
    | zero => exact ⟨wrapping.lead, rfl⟩
    | succ i =>
      obtain ⟨front, hfront⟩ := h.keeps i (Nat.lt_of_succ_lt_succ hi)
      refine ⟨front ++ (wrapping.kind.title ++ ": " ++ wrapping.lead), ?_⟩
      simpa only [String.append_assoc] using hfront

/-- **A chain from an error.** -/
theorem chained_chain (wrappings : List Wrapping) (cause : Cause) :
    ∃ message, Chained wrappings cause.text
      (chain wrappings (.error cause : Except Cause α)) message := by
  induction wrappings generalizing cause with
  | nil => exact ⟨fun _ ↦ "", .nil _ _⟩
  | cons wrapping wrappings ih =>
    obtain ⟨message, hmessage⟩ := ih (.failed (wrapping.failure cause))
    rw [failure_eq] at hmessage
    have hchain : chain (wrapping :: wrappings) (.error cause : Except Cause α) =
        ⟨.error (wrapping.failure cause), wrapping.operation.isSome⟩
          :: chain wrappings (.error (.failed (wrapping.failure cause))) := rfl
    rw [hchain, failure_eq]
    exact ⟨_, .cons hmessage⟩

/-- **A chain from a value** passes it on, and no operation is asked for. -/
theorem chain_ok (wrappings : List Wrapping) (value : α) :
    chain wrappings (.ok value) = wrappings.map fun _ ↦ ⟨.ok value, false⟩ := by
  induction wrappings with
  | nil => rfl
  | cons wrapping wrappings ih => exact congrArg (⟨.ok value, false⟩ :: ·) ih

end Wrapping

/-! ## Operations that are found out -/

/-- A wrapping whose operation is told by an action on a state. -/
structure Deferred (σ : Type) where
  kind : SimpleKind
  operation : Option (StateM σ String)

namespace Deferred

/-- Wraps the error of a result, running the action if there is an error. -/
def apply (link : Deferred σ) : Except Cause α → StateM σ (Except Failure α)
  | .ok value => pure (.ok value)
  | .error cause =>
    match link.operation with
    | none => pure (.error (.simple link.kind cause.text))
    | some ask => do
      let operation ← ask
      pure (.error (.simple link.kind (operation ++ ": " ++ cause.text)))

/-- Applies the links one after the other, each to the result of the one before it. -/
def chain : List (Deferred σ) → Except Cause α → StateM σ (List (Except Failure α))
  | [], _ => pure []
  | link :: links, result => do
    let wrapped ← link.apply result
    let later ← chain links (wrapped.mapError Cause.failed)
    pure (wrapped :: later)

def tell (link : Deferred σ) : StateM σ Wrapping :=
  match link.operation with
  | none => pure ⟨link.kind, none⟩
  | some ask => do
    let operation ← ask
    pure ⟨link.kind, some operation⟩

theorem apply_error (link : Deferred σ) (cause : Cause) :
    link.apply (.error cause : Except Cause α) =
      (fun wrapping ↦ .error (wrapping.failure cause)) <$> link.tell := by
  rw [apply, tell]
  cases link.operation <;> rfl

/-- **From an error** each action is run once, in the order of the chain, and the results are those
of the wrappings that are told. -/
theorem chain_error (links : List (Deferred σ)) (cause : Cause) :
    chain links (.error cause : Except Cause α) =
      (fun wrappings ↦ (Wrapping.chain wrappings (.error cause)).map Wrapping.Outcome.result)
        <$> links.mapM tell := by
  induction links generalizing cause with
  | nil => rfl
  | cons link links ih =>
    have hmap (failure : Failure) :
        (.error failure : Except Failure α).mapError Cause.failed = .error (.failed failure) := rfl
    rw [chain, apply_error, List.mapM_cons]
    simp only [hmap, ih, bind_map_left, map_bind, bind_pure_comp]
    rfl

/-- **From a value** no action is run. -/
theorem chain_ok (links : List (Deferred σ)) (value : α) :
    chain links (.ok value) = pure (links.map fun _ ↦ .ok value) := by
  induction links with
  | nil => rfl
  | cons link links ih =>
    have hmap : (.ok value : Except Failure α).mapError Cause.failed = .ok value := rfl
    rw [chain, apply, pure_bind, hmap, ih, pure_bind, List.map_cons]

/-- The link of a wrapping that counts how often its operation is asked for. -/
def counting (wrapping : Wrapping) : Deferred Nat where
  kind := wrapping.kind
  operation := wrapping.operation.map fun operation count ↦ (operation, count + 1)

/-- What is noted of a wrapping is what counting finds: once if the operation is asked for. -/
theorem apply_counting (wrapping : Wrapping) (result : Except Cause α) (count : Nat) :
    (counting wrapping).apply result count =
      (wrapping.apply result, count + (wrapping.asksOperation result).toNat) := by
  obtain ⟨kind, operation⟩ := wrapping
  cases result with
  | ok value => rfl
  | error cause => cases operation <;> rfl

end Deferred

/-- **A chain keeps the text.** A value passes a chain of wrappings unchanged, and no operation is
asked for. An error becomes failures of the simple kinds of the wrappings, without records and field
map, whose messages begin with the operation and go on with the error or the failure before; so they
end in the text of the error, which is the line of a failure if it is one. Operations that are found
out are found out once each, in order, if there is an error, and otherwise never. -/
theorem chain_keeps_text (wrappings : List Wrapping) (links : List (Deferred σ)) :
    (∀ value : α,
      Wrapping.chain wrappings (.ok value) = wrappings.map fun _ ↦ ⟨.ok value, false⟩) ∧
    (∀ cause : Cause, ∃ message, Wrapping.Chained wrappings cause.text
      (Wrapping.chain wrappings (.error cause : Except Cause α)) message) ∧
    (∀ failure : Failure,
      (Cause.failed failure).text = failure.kind.title ++ ": " ++ failure.message) ∧
    (∀ kind message, (Failure.simple kind message).kind = .simple kind ∧
      (Failure.simple kind message).message = message ∧
      (Failure.simple kind message).records = [] ∧
      (Failure.simple kind message).fieldMap? = none) ∧
    (∀ value : α, Deferred.chain links (.ok value) = pure (links.map fun _ ↦ .ok value)) ∧
    (∀ cause : Cause, Deferred.chain links (.error cause : Except Cause α) =
      (fun wrappings ↦ (Wrapping.chain wrappings (.error cause)).map Wrapping.Outcome.result)
        <$> links.mapM Deferred.tell) ∧
    ∀ wrapping (result : Except Cause α) count,
      (Deferred.counting wrapping).apply result count =
        (wrapping.apply result, count + (wrapping.asksOperation result).toNat) :=
  ⟨Wrapping.chain_ok wrappings, Wrapping.chained_chain wrappings, fun _ ↦ rfl,
    fun _ _ ↦ ⟨rfl, rfl, rfl, rfl⟩, Deferred.chain_ok links, Deferred.chain_error links,
    Deferred.apply_counting⟩

end MonitorCore

/-!
# Environment variables

The variables of a process in the order in which they are enumerated: a new variable comes last, and
setting a variable again leaves it in its place.

Names and values end at a zero character, so neither can hold one, and a name ends at the equals
sign.
-/

namespace MonitorCore

/-- The variables of a process, no name twice. -/
abbrev Environment := List (String × String)

namespace Environment

def get? (env : Environment) (name : String) : Option String :=
  (List.find? (fun entry ↦ entry.1 == name) env).map (·.2)

/-- The rest of a text behind its beginning. -/
def behind? : List Char → List Char → Option (List Char)
  | [], cs => some cs
  | _ :: _, [] => none
  | a :: as, c :: cs => if a = c then behind? as cs else none

/-- The value that is found under a text. Variables are kept as texts, name and value with an equals
sign between them, and what stands behind the text and another equals sign is found; so a text with
an equals sign in it may reach into a value. -/
def find? (env : Environment) (text : String) : Option String :=
  List.findSome? (fun entry ↦
    (behind? (text.toList ++ ['=']) (entry.1.toList ++ '=' :: entry.2.toList)).map
      String.ofList) env

def set (name value : String) : Environment → Environment
  | [] => [(name, value)]
  | (n, v) :: rest => if n = name then (n, value) :: rest else (n, v) :: set name value rest

def unset (name : String) (env : Environment) : Environment :=
  List.filter (fun entry ↦ entry.1 != name) env

/-- Whether a text can be the value of a variable. -/
def isValue (value : String) : Bool := !value.toList.contains '\x00'

/-- Whether a text can be the name of a variable. -/
def isName (name : String) : Bool :=
  !name.isEmpty && !name.toList.contains '=' && !name.toList.contains '\x00'

def setIfAbsent (name value : String) (env : Environment) : Environment :=
  if (env.get? name).isSome then env else env.set name value

/-! ## What the operations do to the values -/

@[simp] theorem get?_nil (name : String) : get? [] name = none := rfl

theorem get?_cons (entry : String × String) (rest : Environment) (name : String) :
    get? (entry :: rest) name = if entry.1 = name then some entry.2 else get? rest name := by
  by_cases h : entry.1 = name <;> simp [get?, h]

/-- Setting a variable changes its value, and no other. -/
theorem get?_set (name value other : String) (env : Environment) :
    (env.set name value).get? other = if name = other then some value else env.get? other := by
  induction env with
  | nil => simp [set, get?_cons]
  | cons entry rest ih =>
    rw [set]
    split
    · next h => rw [get?_cons, get?_cons, h]; split <;> rfl
    · next h =>
      rw [get?_cons, get?_cons, ih]
      by_cases hk : entry.1 = other
      · have hne : name ≠ other := fun hno ↦ h (hk.trans hno.symm)
        simp [hk, hne]
      · simp [hk]

/-- A variable that was removed has no value, and every other keeps its own. -/
theorem get?_unset (name other : String) (env : Environment) :
    (env.unset name).get? other = if name = other then none else env.get? other := by
  induction env with
  | nil => simp [unset]
  | cons entry rest ih =>
    have hstep : unset name (entry :: rest) =
        if entry.1 = name then unset name rest else entry :: unset name rest := by
      by_cases h : entry.1 = name <;> simp [unset, h]
    rw [hstep, get?_cons]
    by_cases h : entry.1 = name
    · rw [if_pos h, ih, h]
      split <;> rfl
    · rw [if_neg h, get?_cons, ih]
      by_cases hk : entry.1 = other
      · have hne : name ≠ other := fun hno ↦ h (hk.trans hno.symm)
        simp [hk, hne]
      · simp [hk]

/-- A variable that is set keeps its value. -/
theorem get?_setIfAbsent (name value other : String) (env : Environment) :
    (env.setIfAbsent name value).get? other =
      (env.get? other).or (if name = other then some value else none) := by
  rw [setIfAbsent]
  split
  · next h =>
    by_cases hno : name = other
    · obtain ⟨old, hold⟩ := Option.isSome_iff_exists.mp h
      simp [← hno, hold]
    · simp [hno]
  · next h =>
    rw [get?_set]
    by_cases hno : name = other
    · have hnone : env.get? name = none := by simpa using h
      simp [← hno, hnone]
    · simp [hno]

/-! ## Values found under names -/

/-- Behind a name and an equals sign only the value of that name stands. -/
theorem behind?_entry {text name : List Char} (value : List Char) (ht : '=' ∉ text)
    (hn : '=' ∉ name) :
    behind? (text ++ ['=']) (name ++ '=' :: value) = if name = text then some value else none := by
  induction text generalizing name with
  | nil =>
    cases name with
    | nil => simp [behind?]
    | cons c name =>
      have hc : '=' ≠ c := fun h ↦ hn (h ▸ List.mem_cons_self)
      simp [behind?, hc]
  | cons a text ih =>
    cases name with
    | nil =>
      have ha : a ≠ '=' := fun h ↦ ht (by simp [h])
      simp [behind?, ha]
    | cons c name =>
      have hrest := @ih name (fun h ↦ ht (by simp [h])) (fun h ↦ hn (by simp [h]))
      by_cases hac : a = c
      · simp [behind?, hac, hrest]
      · have hca : c ≠ a := fun h ↦ hac h.symm
        simp [behind?, hac, hca]

/-- Under the name of a variable its value is found. -/
theorem find?_eq_get? {env : Environment} {name : String} (hname : '=' ∉ name.toList)
    (henv : ∀ entry ∈ env, '=' ∉ entry.1.toList) : env.find? name = env.get? name := by
  induction env with
  | nil => rfl
  | cons entry rest ih =>
    have hrest : find? rest name = get? rest name := ih fun e he ↦ henv e (by simp [he])
    have hentry := behind?_entry entry.2.toList hname (henv entry (by simp))
    rw [get?_cons, ← hrest, find?, List.findSome?_cons, hentry]
    by_cases h : entry.1 = name
    · simp [h]
    · have hlist : entry.1.toList ≠ name.toList := fun he ↦ h (String.toList_inj.mp he)
      simp [h, hlist, find?]

end Environment

end MonitorCore

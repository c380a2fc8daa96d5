import Mathlib.Data.List.Induction
import MonitorCore.Proofs.Settings.Distinct
import MonitorCore.Proofs.Settings.Merge
import MonitorCore.Settings.Load

/-!
# Settings from variables

The variables of the platform lead to key paths (`variablePath?`). Where no two of them lead to one
field of logging, what a field gets from them does not depend on the order in which they are
enumerated (`variableFor?_perm`), and the layer that is made of them has just these settings for the
fields.

A `.env` file only adds variables behind those that are set (`Dotenv.apply_extends`).
-/

namespace MonitorCore

/-- The key path that a variable leads to, if it is one of the platform. -/
def variablePath? (name : String) : Option KeyPath := (variableKey? name).map KeyPath.ofText

def loggingPath (field : String) : KeyPath := .child (.top "logging") field

def variableSetting (value : String) : Setting := .scalar (some environmentOrigin) (.text value)

/-- The value of the variable that leads to a field of logging. -/
def variableFor? (env : Environment) (field : String) : Option String :=
  (List.find? (fun entry ↦ variablePath? entry.1 == some (loggingPath field)) env).map (·.2)

/-- Every variable of the platform leads to a field of logging or away from logging, and no two lead
to the same field. -/
structure LeadsToFields (env : Environment) : Prop where
  leads : ∀ entry ∈ env, ∀ path, variablePath? entry.1 = some path →
    path.first ≠ "logging" ∨ ∃ field ∈ Setting.fields, path = loggingPath field.key
  once : ∀ field ∈ Setting.fields, ∀ entry ∈ env, ∀ other ∈ env,
    variablePath? entry.1 = some (loggingPath field.key) →
      variablePath? other.1 = some (loggingPath field.key) → entry = other

section

variable {env env' : Environment} {field value : String}

theorem LeadsToFields.perm (h : LeadsToFields env) (hperm : env.Perm env') :
    LeadsToFields env' where
  leads entry hentry := h.leads entry (hperm.mem_iff.2 hentry)
  once field hfield entry hentry other hother :=
    h.once field hfield entry (hperm.mem_iff.2 hentry) other (hperm.mem_iff.2 hother)

theorem LeadsToFields.eq (h : LeadsToFields env) {entry other : String × String}
    (hentry : entry ∈ env) (hother : other ∈ env)
    (hpath : variablePath? entry.1 = some (loggingPath field))
    (hpath' : variablePath? other.1 = some (loggingPath field)) : entry = other := by
  -- the field is one of logging, since a variable leads to it
  rcases h.leads entry hentry _ hpath with hne | ⟨known, hknown, heq⟩
  · exact absurd rfl hne
  · obtain rfl : field = known.key := (KeyPath.child.inj heq).2
    exact h.once known hknown entry hentry other hother hpath hpath'

theorem variableFor?_eq_some_iff (h : LeadsToFields env) :
    variableFor? env field = some value ↔
      ∃ entry ∈ env, variablePath? entry.1 = some (loggingPath field) ∧ entry.2 = value := by
  rw [variableFor?, Option.map_eq_some_iff]
  constructor
  · rintro ⟨entry, hfind, rfl⟩
    exact ⟨entry, List.mem_of_find?_eq_some hfind, by simpa using List.find?_some hfind, rfl⟩
  · rintro ⟨entry, hentry, hpath, rfl⟩
    cases hfind :
        List.find? (fun entry ↦ variablePath? entry.1 == some (loggingPath field)) env with
    | none => exact absurd (beq_iff_eq.2 hpath) (List.find?_eq_none.1 hfind entry hentry)
    | some other =>
      have hother : variablePath? other.1 = some (loggingPath field) := by
        simpa using List.find?_some hfind
      exact ⟨other, rfl, by rw [h.eq (List.mem_of_find?_eq_some hfind) hentry hother hpath]⟩

/-- **Order does not matter** for what the fields get from variables. -/
theorem variableFor?_perm (h : LeadsToFields env) (hperm : env.Perm env') (field : String) :
    variableFor? env' field = variableFor? env field := by
  refine Option.ext fun value ↦ ?_
  rw [variableFor?_eq_some_iff h, variableFor?_eq_some_iff (h.perm hperm)]
  simp only [hperm.mem_iff]

theorem variableFor?_eq_none
    (h : ∀ entry ∈ env, variablePath? entry.1 ≠ some (loggingPath field)) :
    variableFor? env field = none := by
  rw [variableFor?, Option.map_eq_none_iff, List.find?_eq_none]
  exact fun entry hentry ↦ by simpa using h entry hentry

/-! ## The layer of variables -/

theorem environmentLayer_concat (env : Environment) (entry : String × String) :
    environmentLayer (env ++ [entry]) =
      match variableKey? entry.1 with
      | none => environmentLayer env
      | some key => Document.enter key (variableSetting entry.2) (environmentLayer env) := by
  simp only [environmentLayer, List.foldl_append, List.foldl_cons, List.foldl_nil]
  cases variableKey? entry.1 <;> rfl

theorem mem_environmentLayer {setting : String × Setting} (h : setting ∈ environmentLayer env) :
    ∃ entry ∈ env, variableKey? entry.1 = some setting.1 ∧ setting.2 = variableSetting entry.2 := by
  -- the layer grows by the last variable
  induction env using List.reverseRecOn with
  | nil => exact nomatch h
  | append_singleton env entry ih =>
    have hbefore : setting ∈ environmentLayer env → ∃ entry' ∈ env ++ [entry],
        variableKey? entry'.1 = some setting.1 ∧ setting.2 = variableSetting entry'.2 := fun h ↦
      (ih h).imp fun _ hentry ↦ ⟨List.mem_append_left _ hentry.1, hentry.2⟩
    rw [environmentLayer_concat] at h
    split at h
    · exact hbefore h
    · next key hkey =>
      rcases Document.mem_enter h with rfl | h
      · exact ⟨entry, List.mem_append_right _ (.head _), hkey, rfl⟩
      · exact hbefore h

theorem key_mem_environmentLayer {entry : String × String} {key : String} (hentry : entry ∈ env)
    (hkey : variableKey? entry.1 = some key) : key ∈ (environmentLayer env).map Prod.fst := by
  induction env using List.reverseRecOn with
  | nil => exact nomatch hentry
  | append_singleton env last ih =>
    rw [environmentLayer_concat]
    rcases List.mem_append.1 hentry with hentry | hentry
    · split
      · exact ih hentry
      · exact Document.mem_keys_enter.2 (.inr (ih hentry))
    · obtain rfl := List.mem_singleton.1 hentry
      rw [hkey]
      exact Document.mem_keys_enter.2 (.inl rfl)

theorem variablePath?_eq_some {name key : String} (h : variableKey? name = some key) :
    variablePath? name = some (KeyPath.ofText key) := by
  rw [variablePath?, h, Option.map_some]

/-- A setting of the layer leads away from logging, or it is a scalar for a field of it. -/
theorem LeadsToFields.layer (h : LeadsToFields env) {setting : String × Setting}
    (hsetting : setting ∈ environmentLayer env) :
    (KeyPath.ofText setting.1).first ≠ "logging" ∨
      (∃ field, KeyPath.ofText setting.1 = .child (.top "logging") field) ∧
        ∃ origin scalar, setting.2 = .scalar origin scalar := by
  obtain ⟨entry, hentry, hkey, hvalue⟩ := mem_environmentLayer hsetting
  refine (h.leads entry hentry _ (variablePath?_eq_some hkey)).imp_right ?_
  rintro ⟨field, -, heq⟩
  exact ⟨⟨field.key, heq⟩, _, _, hvalue⟩

theorem LeadsToFields.field_of_layer (h : LeadsToFields env) {setting : String × Setting}
    (hsetting : setting ∈ environmentLayer env)
    (hpath : KeyPath.ofText setting.1 = loggingPath field) :
    (variableFor? env field).map variableSetting = some setting.2 := by
  obtain ⟨entry, hentry, hkey, hvalue⟩ := mem_environmentLayer hsetting
  have hleads : variablePath? entry.1 = some (loggingPath field) :=
    hpath ▸ variablePath?_eq_some hkey
  rw [(variableFor?_eq_some_iff h).2 ⟨entry, hentry, hleads, rfl⟩, Option.map_some, hvalue]

theorem variableFor?_eq_none_of_layer
    (h : ∀ setting ∈ environmentLayer env, KeyPath.ofText setting.1 ≠ loggingPath field) :
    variableFor? env field = none := by
  refine variableFor?_eq_none fun entry hentry hleads ↦ ?_
  obtain ⟨key, hkey, hpath⟩ := Option.map_eq_some_iff.1 hleads
  obtain ⟨setting, hsetting, rfl⟩ := List.mem_map.1 (key_mem_environmentLayer hentry hkey)
  exact h setting hsetting hpath

end

/-! ## Variables from a file -/

section

variable {env : Environment}

theorem Environment.set_of_get?_eq_none {name : String} (h : env.get? name = none)
    (value : String) : env.set name value = env ++ [(name, value)] := by
  induction env with
  | nil => rfl
  | cons entry rest ih =>
    rw [Environment.get?_cons] at h
    split at h
    · exact nomatch h
    · next hne => rw [Environment.set, if_neg hne, ih h, List.cons_append]

theorem Environment.get?_append (env more : Environment) (name : String) :
    Environment.get? (env ++ more) name = (env.get? name).or (more.get? name) := by
  induction env with
  | nil => rfl
  | cons entry rest ih =>
    rw [List.cons_append, Environment.get?_cons, Environment.get?_cons, ih]
    split <;> rfl

/-- Only variables that are not set yet are added, and they come last. -/
def Extends (env env' : Environment) : Prop :=
  ∃ added : Environment, env' = env ++ added ∧ ∀ entry ∈ added, env.get? entry.1 = none

theorem Extends.refl (env : Environment) : Extends env env := ⟨[], by simp, nofun⟩

theorem Extends.trans {env' env'' : Environment} (h : Extends env env') (h' : Extends env' env'') :
    Extends env env'' := by
  obtain ⟨added, rfl, hadded⟩ := h
  obtain ⟨more, rfl, hmore⟩ := h'
  refine ⟨added ++ more, List.append_assoc .., fun entry hentry ↦ ?_⟩
  rcases List.mem_append.1 hentry with hentry | hentry
  · exact hadded entry hentry
  · have hnone := hmore entry hentry
    rw [Environment.get?_append, Option.or_eq_none_iff] at hnone
    exact hnone.1

theorem setIfAbsent_extends (name value : String) (env : Environment) :
    Extends env (env.setIfAbsent name value) := by
  rw [Environment.setIfAbsent]
  split
  · exact .refl env
  · next h =>
    have hnone : env.get? name = none := Option.not_isSome_iff_eq_none.1 h
    exact ⟨[(name, value)], Environment.set_of_get?_eq_none hnone value,
      List.forall_mem_singleton.2 hnone⟩

theorem Extends.get? {env' : Environment} (h : Extends env env') {name value : String}
    (hget : env.get? name = some value) : env'.get? name = some value := by
  obtain ⟨added, rfl, -⟩ := h
  rw [Environment.get?_append, hget, Option.some_or]

theorem Dotenv.applyLines_extends (env : Environment) (earlier : List (String × String))
    (lines : List (Option String)) : Extends env (applyLines env earlier lines).1 := by
  fun_induction applyLines env earlier lines with
  | case1 | case2 | case4 | case5 => exact .refl _
  | case3 _ _ _ _ _ ih => exact ih
  | case6 env _ _ _ key value _ _ ih => exact (setIfAbsent_extends key value env).trans ih

theorem Dotenv.fileFrom?_eq_none {files : FileTree} {dir : Path}
    (h : ∀ above, above <+: dir → files.content? (above ++ [".env"]) = none) :
    fileFrom? files dir.reverse = none := by
  induction dir using List.reverseRecOn with
  | nil => exact h [] List.nil_prefix
  | append_singleton dir name ih =>
    have hhere := h _ List.prefix_rfl
    have habove := ih fun above habove ↦ h above (habove.trans (List.prefix_append dir [name]))
    rw [List.reverse_append, List.reverse_singleton, List.singleton_append, fileFrom?,
      List.reverse_cons, List.reverse_cons, List.reverse_reverse, hhere]
    exact habove

/-- **What is set stays.** The variables of a `.env` file come behind those that are set. -/
theorem Dotenv.apply_extends (files : FileTree) (env : Environment) :
    Extends env (apply files env).1 := by
  unfold apply
  split
  · exact .refl env
  · exact applyLines_extends ..

end

end MonitorCore

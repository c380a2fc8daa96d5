import MonitorCore.Proofs.Settings.Effective

/-!
# The order of a loading

Every loading goes through tables in an order of its own. What this can change is little: which of
two settings counts that are put into each other's way, and which of several fields is reported that
do not convert. Where there is nothing of the kind, all orders lead to the same end
(`OrderFree.loadConfig_eq`).
-/

namespace MonitorCore

theorem Setting.Field.Fails.unique {fields : String → Option Setting} {field : Setting.Field}
    {failure failure' : Failure} (h : field.Fails fields failure)
    (h' : field.Fails fields failure') : failure = failure' := by
  obtain ⟨setting, found, hsetting, hfound, rfl⟩ := h
  obtain ⟨setting', found', hsetting', hfound', rfl⟩ := h'
  obtain rfl : setting = setting' := Option.some.inj (hsetting.symm.trans hsetting')
  obtain rfl : found = found' := Except.error.inj (hfound.symm.trans hfound')
  rfl

/-- At most one field has a setting that does not convert. -/
def AtMostOneFails (fields : String → Option Setting) : Prop :=
  ∀ field ∈ Setting.fields, ∀ other ∈ Setting.fields, ∀ failure failure',
    field.Fails fields failure → other.Fails fields failure' → field = other

theorem AtMostOneFails.configOfFields_eq {fields : String → Option Setting}
    (h : AtMostOneFails fields) (order order' : Shuffle Setting.Field) :
    configOfFields order fields = configOfFields order' fields := by
  have hok : ∀ config, configOfFields order fields = .ok config ↔
      configOfFields order' fields = .ok config := fun config ↦
    (configOfFields_eq_ok_iff order config.logging).trans
      (configOfFields_eq_ok_iff order' config.logging).symm
  cases hfirst : configOfFields order fields with
  | ok config => exact ((hok config).1 hfirst).symm
  | error failure =>
    cases hsecond : configOfFields order' fields with
    | ok config => exact nomatch hfirst.symm.trans ((hok config).2 hsecond)
    | error failure' =>
      obtain ⟨field, hfield, hfails⟩ := configOfFields_error hfirst
      obtain ⟨other, hother, hfails'⟩ := configOfFields_error hsecond
      obtain rfl := h field hfield other hother failure failure' hfails hfails'
      rw [hfails.unique hfails']

variable [Platform] {files : FileTree} {env : Environment} {path : Option String}

/-- Whether the file can be read does not depend on the order, nor does what is wrong with it. -/
theorem fileLayer_error {order : Order} {name : String} {reason : LoadError}
    (h : fileLayer order files name = .error reason) (order' : Order) :
    fileLayer order' files name = .error reason := by
  rw [fileLayer] at h ⊢
  split at h
  · exact h
  · split at h
    · exact h
    · split at h
      · exact h
      · simp at h

/-- The order of a loading is of no account, once the `.env` file has been read. -/
inductive OrderFree (files : FileTree) (env : Environment) (path : Option String) : Prop
  /-- The reading of the `.env` file has broken off. -/
  | brokenOff (hdotenv : (Dotenv.apply files env).2 = .broken)
  /-- The configuration file cannot be read. -/
  | unread {name : String} {order : Order} {reason : LoadError} (hpath : path = some name)
      (hread : fileLayer order files name = .error reason)
  /-- The settings are not in each other's way, and at most one does not convert. -/
  | apart {origin : String} {members : List (String × Document)}
      (hfile : FileHolds files path origin members)
      (hnames : ∀ member ∈ members, KeyPath.IsName member.1) (htable : HasTable members)
      (hleads : LeadsToFields (Dotenv.apply files env).1)
      (hplain : ∀ entry ∈ (Dotenv.apply files env).1, ∀ keyPath,
        variablePath? entry.1 = some keyPath → ¬keyPath.Indexed)
      (hfails : AtMostOneFails (effective (Dotenv.apply files env).1 origin members))

/-- **All orders lead to the same end.** -/
theorem OrderFree.loadConfig_eq (h : OrderFree files env path) (order order' : Order) :
    loadConfig order files env path = loadConfig order' files env path := by
  rw [loadConfig, loadConfig]
  rcases hdotenv : Dotenv.apply files env with ⟨env', ⟨⟩ | _⟩
  · dsimp only
    congr 1
    cases h with
    | brokenOff hbroken => simp [hdotenv] at hbroken
    | unread hpath hread =>
      subst hpath
      simp only [configFrom, fileLayer_error hread]
    | @apart origin members hfile hnames htable hleads hplain hfails =>
      rw [hdotenv] at hleads hplain hfails
      have hended : ∀ order : Order, configFrom order files env' path =
          .ended (configOfFields order.fields (effective env' origin members)) := by
        intro order
        rcases configFrom_effective hfile hnames htable hleads order with
          ⟨-, entry, hentry, keyPath, hpath, hindexed⟩ | hended
        · exact absurd hindexed (hplain entry hentry keyPath hpath)
        · exact hended
      rw [hended, hended, hfails.configOfFields_eq order.fields order'.fields]
  · rfl

end MonitorCore

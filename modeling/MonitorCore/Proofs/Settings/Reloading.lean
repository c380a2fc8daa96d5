import MonitorCore.Proofs.Settings.Orders

/-!
# Loading again

Loading the configuration changes the very variables that it is then made of, and that a second
loading starts from. A line of the `.env` file may mean something else by then, for a name that
stood for nothing at first may have a value now.

## What does not change

Which lines are malformed, and which variable each of the others defines, does not depend on any
variable (`readLine_alike`): a value that is put in the place of a name is not scanned again. So the
second loading reads as far as the first one. And every variable that it meets on the way is set by
then, so whatever the lines say now, none of them has an effect (`setLines_again`).

## Where a value comes from

The lines take effect one by one, each in the environment that those before have left. The reader
also keeps the assignments of earlier lines, to fall back on when a name is no variable; but what
was assigned is set, so there is nothing left to find there (`applyLines_eq_setLines`). Of the lines
that define a variable only the first one counts (`get?_setLines_iff`).

## How the second loading ends

It finds the variables that the first one was made of, so in the same order it ends in the same way.
But each loading goes through tables in an order of its own, and then two of them can end otherwise,
unless the order is of no account (`OrderFree`).
-/

namespace MonitorCore

namespace Environment

/-- What a name stands for in a value: nothing, if it is not set. -/
def standing (env : Environment) (name : String) : String := (env.find? name).getD ""

theorem behind?_append (cs rest : List Char) : behind? cs (cs ++ rest) = some rest := by
  induction cs with
  | nil => rfl
  | cons c cs ih => rw [List.cons_append, behind?, if_pos rfl, ih]

theorem find?_ne_none_of_get? {env : Environment} {name : String} (h : env.get? name ≠ none) :
    env.find? name ≠ none := by
  obtain ⟨value, hvalue⟩ := Option.ne_none_iff_exists'.mp h
  obtain ⟨entry, hfind, -⟩ := Option.map_eq_some_iff.mp hvalue
  have hname : entry.1 = name := by simpa using List.find?_some hfind
  have hbehind : behind? (name.toList ++ ['=']) (entry.1.toList ++ '=' :: entry.2.toList) =
      some entry.2.toList := by
    rw [hname, show name.toList ++ '=' :: entry.2.toList =
      (name.toList ++ ['=']) ++ entry.2.toList by simp]
    exact behind?_append _ _
  intro hnone
  have hentry := List.findSome?_eq_none_iff.mp hnone entry (List.mem_of_find?_eq_some hfind)
  rw [hbehind] at hentry
  exact nomatch hentry

theorem get?_setIfAbsent_ne_none (name value : String) (env : Environment) :
    (env.setIfAbsent name value).get? name ≠ none := by
  rw [get?_setIfAbsent, if_pos rfl]
  cases env.get? name <;> simp

theorem get?_setIfAbsent_self {env : Environment} {name : String} (h : env.get? name = none)
    (value : String) : (env.setIfAbsent name value).get? name = some value := by
  rw [get?_setIfAbsent, h, if_pos rfl, Option.none_or]

theorem get?_setIfAbsent_of_ne {name other : String} (h : name ≠ other) (value : String)
    (env : Environment) : (env.setIfAbsent name value).get? other = env.get? other := by
  rw [get?_setIfAbsent, if_neg h, Option.or_none]

theorem setIfAbsent_of_get? {env : Environment} {name : String} (h : env.get? name ≠ none)
    (value : String) : env.setIfAbsent name value = env := by
  rw [setIfAbsent, if_pos (Option.isSome_iff_ne_none.mpr h)]

end Environment

theorem Extends.get?_ne_none {env env' : Environment} (h : Extends env env') {name : String}
    (hset : env.get? name ≠ none) : env'.get? name ≠ none := by
  obtain ⟨value, hvalue⟩ := Option.ne_none_iff_exists'.mp hset
  rw [h.get? hvalue]
  exact nofun

namespace Dotenv

open Text (isBlank)

/-! ## What lines say whatever the variables -/

/-- Where the scanner is, whatever the value so far. -/
def Scan.place (scan : Scan) : Mode × Bool := (scan.mode, scan.weak)

/-- Where a character takes the scanner depends neither on the value so far nor on variables. -/
theorem place_step {scan scan' : Scan} (h : scan.place = scan'.place)
    (lookup lookup' : String → String) (c : Char) :
    (scan.step lookup c).map Scan.place = (scan'.step lookup' c).map Scan.place := by
  obtain ⟨rev, mode, weak⟩ := scan
  obtain ⟨rev', mode', weak'⟩ := scan'
  obtain ⟨rfl, rfl⟩ : mode = mode' ∧ weak = weak' := Prod.mk.inj h
  cases mode with
  | comment => rfl
  | _ => simp only [Scan.step]; split_ifs <;> rfl

theorem isSome_finish {scan scan' : Scan} (h : scan.place = scan'.place)
    (lookup lookup' : String → String) :
    (scan.finish lookup).isSome = (scan'.finish lookup').isSome := by
  obtain ⟨rev, mode, weak⟩ := scan
  obtain ⟨rev', mode', weak'⟩ := scan'
  obtain ⟨rfl, rfl⟩ : mode = mode' ∧ weak = weak' := Prod.mk.inj h
  cases weak with
  | true => rfl
  | false => cases mode <;> rfl

theorem isSome_scanFrom {scan scan' : Scan} (h : scan.place = scan'.place)
    (lookup lookup' : String → String) (cs : List Char) :
    (scanFrom lookup scan cs).isSome = (scanFrom lookup' scan' cs).isSome := by
  induction cs generalizing scan scan' with
  | nil => exact isSome_finish h lookup lookup'
  | cons c cs ih =>
    have hstep := place_step h lookup lookup' c
    rw [scanFrom, scanFrom]
    cases hnext : scan.step lookup c with
    | none =>
      rw [hnext, Option.map_none, eq_comm, Option.map_eq_none_iff] at hstep
      rw [hstep]
    | some next =>
      rw [hnext, Option.map_some, eq_comm, Option.map_eq_some_iff] at hstep
      obtain ⟨next', hnext', hplace⟩ := hstep
      rw [hnext']
      exact ih hplace.symm

/-- Lines that are the same up to the values that they give. -/
inductive Line.Alike : Line → Line → Prop
  | silent : Alike .silent .silent
  | assignment (key value value' : String) : Alike (.assignment key value) (.assignment key value')
  | malformed : Alike .malformed .malformed

/-- **What a line defines** does not depend on variables. -/
theorem readLine_alike (lookup lookup' : String → String) (line : String) :
    (readLine lookup line).Alike (readLine lookup' line) := by
  unfold readLine
  split
  · exact .silent
  · exact .silent
  · split
    · exact .malformed
    · next key rest _ =>
      split
      · exact .assignment key "" ""
      · exact .assignment key "" ""
      · have hread : (readText lookup (rest.dropWhile isBlank)).isSome =
            (readText lookup' (rest.dropWhile isBlank)).isSome :=
          isSome_scanFrom rfl lookup lookup' _
        cases hvalue : readText lookup (rest.dropWhile isBlank) with
        | none =>
          rw [hvalue, eq_comm, Option.isSome_none, Option.isSome_eq_false_iff,
            Option.isNone_iff_eq_none] at hread
          rw [hread]
          exact .malformed
        | some value =>
          rw [hvalue, eq_comm, Option.isSome_some, Option.isSome_iff_exists] at hread
          obtain ⟨value', hvalue'⟩ := hread
          rw [hvalue']
          exact .assignment key value value'

/-- The line is no comment and no assignment. -/
def Malformed (line : String) : Prop := ∃ lookup, readLine lookup line = .malformed

/-- The line is an assignment to the variable, of whatever value. -/
def Defines (line name : String) : Prop :=
  ∃ lookup value, readLine lookup line = .assignment name value

section

variable {lookup : String → String} {line name key value : String}

theorem malformed_iff (lookup : String → String) :
    Malformed line ↔ readLine lookup line = .malformed := by
  refine ⟨fun ⟨lookup', h⟩ ↦ ?_, fun h ↦ ⟨lookup, h⟩⟩
  have halike := readLine_alike lookup' lookup line
  generalize readLine lookup line = read at halike
  rw [h] at halike
  cases halike with
  | malformed => rfl

theorem defines_iff (lookup : String → String) :
    Defines line name ↔ ∃ value, readLine lookup line = .assignment name value := by
  refine ⟨fun ⟨lookup', value, h⟩ ↦ ?_, fun ⟨value, h⟩ ↦ ⟨lookup, value, h⟩⟩
  have halike := readLine_alike lookup' lookup line
  generalize readLine lookup line = read at halike
  rw [h] at halike
  cases halike with
  | assignment _ _ value' => exact ⟨value', rfl⟩

theorem not_malformed_of_assignment (h : readLine lookup line = .assignment key value) :
    ¬ Malformed line := by
  rw [malformed_iff lookup, h]
  exact nofun

theorem eq_of_defines (h : readLine lookup line = .assignment key value)
    (hdefines : Defines line name) : name = key := by
  obtain ⟨value', hread⟩ := (defines_iff lookup).mp hdefines
  exact (Line.assignment.inj (hread.symm.trans h)).1

end

/-! ## Lines, one by one -/

/-- The variables after the lines, each read with nothing but the variables that are set by then. -/
def setLines : Environment → List (Option String) → Environment × Attempt Unit
  | env, [] => (env, .ended ())
  | env, none :: _ => (env, .ended ())
  | env, some line :: lines =>
    match readLine env.standing line with
    | .silent => setLines env lines
    | .malformed => (env, .ended ())
    | .assignment key value =>
      if (env.get? key).isNone ∧ !Environment.isValue value then (env, .broken)
      else setLines (env.setIfAbsent key value) lines

/-- The lines before are of no use as far as their variables are set. -/
theorem lookup_eq_standing {env : Environment} {earlier : List (String × String)}
    (h : ∀ entry ∈ earlier, env.get? entry.1 ≠ none) : lookup env earlier = env.standing := by
  funext name
  rw [lookup, Environment.standing]
  cases hfind : env.find? name with
  | some value => rfl
  | none =>
    have hnone : List.find? (fun entry ↦ entry.1 == name) earlier = none := by
      refine List.find?_eq_none.mpr fun entry hentry hname ↦ ?_
      have hset : env.get? name ≠ none := beq_iff_eq.mp hname ▸ h entry hentry
      exact Environment.find?_ne_none_of_get? hset hfind
    rw [hnone]
    rfl

/-- **What a line falls back on is nothing**, since what the lines before have assigned is set. -/
theorem applyLines_eq_setLines {env : Environment} {earlier : List (String × String)}
    (h : ∀ entry ∈ earlier, env.get? entry.1 ≠ none) (lines : List (Option String)) :
    applyLines env earlier lines = setLines env lines := by
  induction lines generalizing env earlier with
  | nil => rfl
  | cons line lines ih =>
    cases line with
    | none => rfl
    | some line =>
      rw [applyLines, setLines, lookup_eq_standing h]
      cases readLine env.standing line with
      | silent => exact ih h
      | malformed => rfl
      | assignment key value =>
        dsimp only
        split
        · rfl
        · refine ih (List.forall_mem_cons.mpr ⟨?_, fun entry hentry ↦ ?_⟩)
          · exact Environment.get?_setIfAbsent_ne_none key value env
          · exact (setIfAbsent_extends key value env).get?_ne_none (h entry hentry)

section

variable {env : Environment} {line key value : String}

theorem applyLines_nil (env : Environment) (lines : List (Option String)) :
    applyLines env [] lines = setLines env lines :=
  applyLines_eq_setLines (List.forall_mem_nil _) lines

theorem setLines_extends (env : Environment) (lines : List (Option String)) :
    Extends env (setLines env lines).1 := by
  rw [← applyLines_nil]
  exact applyLines_extends env [] lines

theorem setLines_idle (hmalformed : ¬ Malformed line)
    (hset : ∀ name, Defines line name → env.get? name ≠ none) (lines : List (Option String)) :
    setLines env (some line :: lines) = setLines env lines := by
  rw [setLines]
  cases hread : readLine env.standing line with
  | silent => rfl
  | malformed => exact absurd ⟨_, hread⟩ hmalformed
  | assignment key value =>
    have hkey : env.get? key ≠ none := hset key ⟨_, value, hread⟩
    dsimp only
    rw [if_neg fun hbreaks ↦ hkey (Option.isNone_iff_eq_none.mp hbreaks.1),
      Environment.setIfAbsent_of_get? hkey]

theorem setLines_sets (hread : readLine env.standing line = .assignment key value)
    (hvalue : Environment.isValue value) (lines : List (Option String)) :
    setLines env (some line :: lines) = setLines (env.setIfAbsent key value) lines := by
  rw [setLines, hread]
  exact if_neg fun hbreaks ↦ by simp [hvalue] at hbreaks

/-- **One line.** The reading ends there, at a malformed line, or breaks off; or the line has no
effect; or it sets a variable that was not set. -/
theorem line_cases (env : Environment) (line : String) :
    (∃ attempt, (attempt = .ended () → Malformed line) ∧
      ∀ lines, setLines env (some line :: lines) = (env, attempt)) ∨
    (¬ Malformed line ∧ ∀ name, Defines line name → env.get? name ≠ none) ∨
    ∃ key value, readLine env.standing line = .assignment key value ∧ env.get? key = none ∧
      Environment.isValue value := by
  cases hread : readLine env.standing line with
  | silent =>
    refine .inr (.inl ⟨?_, fun name hdefines ↦ ?_⟩)
    · rw [malformed_iff env.standing, hread]
      exact nofun
    · obtain ⟨value, hassigns⟩ := (defines_iff env.standing).mp hdefines
      exact nomatch hread.symm.trans hassigns
  | malformed => exact .inl ⟨.ended (), fun _ ↦ ⟨_, hread⟩, fun lines ↦ by rw [setLines, hread]⟩
  | assignment key value =>
    by_cases hset : env.get? key = none
    · by_cases hvalue : Environment.isValue value = true
      · exact .inr (.inr ⟨key, value, rfl, hset, hvalue⟩)
      · refine .inl ⟨.broken, nofun, fun lines ↦ ?_⟩
        rw [setLines, hread]
        exact if_pos ⟨Option.isNone_iff_eq_none.mpr hset, by simpa using hvalue⟩
    · refine .inr (.inl ⟨not_malformed_of_assignment hread, fun name hdefines ↦ ?_⟩)
      rwa [eq_of_defines hread hdefines]

/-- **The same lines again change nothing**, and end in the same way. -/
theorem setLines_again (env : Environment) (lines : List (Option String)) :
    setLines (setLines env lines).1 lines = setLines env lines := by
  induction lines generalizing env with
  | nil => rfl
  | cons line lines ih =>
    cases line with
    | none => rfl
    | some line =>
      rcases line_cases env line with
        ⟨attempt, -, hstops⟩ | ⟨hmalformed, hset⟩ | ⟨key, value, hread, -, hvalue⟩
      · rw [hstops]
        exact hstops lines
      · have hlater : ∀ name, Defines line name → (setLines env lines).1.get? name ≠ none :=
          fun name hdefines ↦ (setLines_extends env lines).get?_ne_none (hset name hdefines)
        rw [setLines_idle hmalformed hset, setLines_idle hmalformed hlater]
        exact ih env
      · -- the variable is set by then, so its line is passed over whatever it says
        have hlater : ∀ name, Defines line name →
            (setLines (env.setIfAbsent key value) lines).1.get? name ≠ none := by
          intro name hdefines
          rw [eq_of_defines hread hdefines]
          exact (setLines_extends _ lines).get?_ne_none
            (Environment.get?_setIfAbsent_ne_none key value env)
        rw [setLines_sets hread hvalue,
          setLines_idle (not_malformed_of_assignment hread) hlater]
        exact ih _

end

/-! ## First definitions -/

/-- The line is read on past, and the variable is none of its business. -/
def Passes (name : String) (line : Option String) : Prop :=
  ∃ text, line = some text ∧ ¬ Malformed text ∧ ¬ Defines text name

/-- A line gives the variable this value: all lines before it are read on past, none of them defines
the variable, and in the environment that they leave the line assigns it the value. -/
def FirstDefined (env : Environment) (lines : List (Option String)) (name value : String) : Prop :=
  ∃ before line after, lines = before ++ some line :: after ∧
    (∀ earlier ∈ before, Passes name earlier) ∧
    (applyLines env [] before).2 = .ended () ∧
    readLine (applyLines env [] before).1.standing line = .assignment name value ∧
    Environment.isValue value

section

variable {env env' : Environment} {line name value : String} {lines : List (Option String)}

theorem FirstDefined.cons (h : FirstDefined env' lines name value)
    (hpasses : Passes name (some line))
    (hstep : ∀ rest, setLines env (some line :: rest) = setLines env' rest) :
    FirstDefined env (some line :: lines) name value := by
  obtain ⟨before, text, after, rfl, hbefore, hended, hread, hvalue⟩ := h
  refine ⟨some line :: before, text, after, rfl, List.forall_mem_cons.mpr ⟨hpasses, hbefore⟩, ?_⟩
  rw [applyLines_nil] at hended hread
  rw [applyLines_nil, hstep]
  exact ⟨hended, hread, hvalue⟩

theorem firstDefined_of_get? (hnone : env.get? name = none)
    (hget : (setLines env lines).1.get? name = some value) :
    FirstDefined env lines name value := by
  induction lines generalizing env with
  | nil => exact nomatch hnone.symm.trans hget
  | cons line lines ih =>
    cases line with
    | none => exact nomatch hnone.symm.trans hget
    | some line =>
      rcases line_cases env line with
        ⟨attempt, -, hstops⟩ | ⟨hmalformed, hset⟩ | ⟨key, value', hread, -, hvalue⟩
      · rw [hstops] at hget
        exact nomatch hnone.symm.trans hget
      · rw [setLines_idle hmalformed hset] at hget
        have hpasses : Passes name (some line) :=
          ⟨line, rfl, hmalformed, fun hdefines ↦ hset name hdefines hnone⟩
        exact (ih hnone hget).cons hpasses (setLines_idle hmalformed hset)
      · rw [setLines_sets hread hvalue] at hget
        by_cases hkey : key = name
        · -- the line itself sets the variable, and the value stays
          subst hkey
          have hstays := (setLines_extends _ lines).get?
            (Environment.get?_setIfAbsent_self hnone value')
          obtain rfl : value' = value := Option.some.inj (hstays.symm.trans hget)
          exact ⟨[], line, lines, rfl, nofun, rfl, hread, hvalue⟩
        · have hnone' := (Environment.get?_setIfAbsent_of_ne hkey value' env).trans hnone
          have hpasses : Passes name (some line) :=
            ⟨line, rfl, not_malformed_of_assignment hread,
              fun hdefines ↦ hkey (eq_of_defines hread hdefines).symm⟩
          exact (ih hnone' hget).cons hpasses (setLines_sets hread hvalue)

/-- **The first definition counts.** A variable that is not set yet has a value after the lines
exactly if a line gives it that value. -/
theorem get?_setLines_iff (hnone : env.get? name = none) :
    (setLines env lines).1.get? name = some value ↔ FirstDefined env lines name value := by
  refine ⟨firstDefined_of_get? hnone, ?_⟩
  rintro ⟨before, line, after, rfl, hbefore, hended, hread, hvalue⟩
  rw [applyLines_nil] at hended hread
  induction before generalizing env with
  | nil =>
    have hsets : setLines env (some line :: after) =
        setLines (env.setIfAbsent name value) after := setLines_sets hread hvalue after
    rw [List.nil_append, hsets]
    exact (setLines_extends _ after).get? (Environment.get?_setIfAbsent_self hnone value)
  | cons earlier before ih =>
    obtain ⟨⟨text, rfl, hmalformed, hdefines⟩, hrest⟩ := List.forall_mem_cons.mp hbefore
    rw [List.cons_append]
    rcases line_cases env text with
      ⟨attempt, hends, hstops⟩ | ⟨-, hset⟩ | ⟨key, value', htext, -, hvalue'⟩
    · rw [hstops] at hended
      exact absurd (hends hended) hmalformed
    · rw [setLines_idle hmalformed hset] at hended hread ⊢
      exact ih hnone hrest hended hread
    · have hkey : key ≠ name := fun heq ↦ hdefines ⟨_, value', heq ▸ htext⟩
      rw [setLines_sets htext hvalue'] at hended hread ⊢
      exact ih ((Environment.get?_setIfAbsent_of_ne hkey value' env).trans hnone) hrest hended hread

end

/-! ## The `.env` file -/

/-- The lines of the `.env` file of the working directory or above it, if there is one. -/
def linesOf (files : FileTree) : List (Option String) :=
  match fileFrom? files files.workDir.reverse with
  | none => []
  | some content => content.lines

theorem apply_eq_setLines (files : FileTree) (env : Environment) :
    apply files env = setLines env (linesOf files) := by
  rw [apply, linesOf]
  cases fileFrom? files files.workDir.reverse with
  | none => rfl
  | some content => exact applyLines_nil env content.lines

end Dotenv

/-! ## Loading -/

section

variable [Platform]

theorem fst_loadConfig (order : Order) (files : FileTree) (env : Environment)
    (path : Option String) :
    (loadConfig order files env path).1 = (Dotenv.apply files env).1 := by
  rw [loadConfig]
  split <;> next heq => rw [heq]

theorem loadConfig_eq_of_apply_eq {files : FileTree} {env env' : Environment}
    (h : Dotenv.apply files env = Dotenv.apply files env') (order : Order)
    (path : Option String) :
    loadConfig order files env path = loadConfig order files env' path := by
  rw [loadConfig, h, loadConfig]

/-- **Loading again.** After a loading, whatever came of it, the variables that were set have their
values still, and each other one has a value exactly if a line of the `.env` file gave it that
value: the first line to define the variable, and one that the reading got to. A second loading of
the same files changes no variable. It ends as the first one would have ended in the same order, so
no end is possible for one of them and not for the other; and it ends as the first one did if the
order is of no account. -/
theorem loadConfig_again (order : Order) (files : FileTree) (env : Environment)
    (path : Option String) :
    let env' := (loadConfig order files env path).1
    (∀ name value, env.get? name = some value → env'.get? name = some value) ∧
      (∀ name value, env.get? name = none →
        (env'.get? name = some value ↔
          Dotenv.FirstDefined env (Dotenv.linesOf files) name value)) ∧
      (∀ again, (loadConfig again files env' path).1 = env') ∧
      (∀ again, loadConfig again files env' path = loadConfig again files env path) ∧
      (OrderFree files env path → ∀ again,
        loadConfig again files env' path = loadConfig order files env path) := by
  intro env'
  have henv : env' = (Dotenv.setLines env (Dotenv.linesOf files)).1 := by
    rw [← Dotenv.apply_eq_setLines]
    exact fst_loadConfig order files env path
  have happly : Dotenv.apply files env' = Dotenv.apply files env := by
    rw [Dotenv.apply_eq_setLines, Dotenv.apply_eq_setLines, henv, Dotenv.setLines_again]
  have hagain : ∀ again, loadConfig again files env' path = loadConfig again files env path :=
    fun again ↦ loadConfig_eq_of_apply_eq happly again path
  refine ⟨fun name value hvalue ↦ ?_, fun name value hnone ↦ ?_, fun again ↦ ?_, hagain,
    fun hfree again ↦ ?_⟩
  · rw [henv]
    exact (Dotenv.setLines_extends env _).get? hvalue
  · rw [henv]
    exact Dotenv.get?_setLines_iff hnone
  · rw [hagain, fst_loadConfig]
    exact (fst_loadConfig order files env path).symm
  · rw [hagain, hfree.loadConfig_eq again order]

end

section

attribute [local instance] Platform.plain

/-- The first loading fails, for there is no such file; yet it has set what the first three lines
define, before the fourth one spoiled the rest. For the second loading `B` would be `1-3`. Whatever
the orders, it fails again. -/
theorem loadConfig_again_of_references :
    let files : FileTree :=
      { entries := [([".env"], .file (.text "A=1\nB=$A-$C\nC=3\nA=2\n?\nD=4\n"))] }
    let env : Environment := [("D", "old")]
    let env' : Environment := [("D", "old"), ("A", "1"), ("B", "1-"), ("C", "3")]
    let failed : Attempt (Except Failure CoreConfig) :=
      .ended (.error (.base "loading configuration: configuration file \"x\" not found"))
    loadConfig .asWritten files env (some "x") = (env', failed) ∧
      Dotenv.FirstDefined env (Dotenv.linesOf files) "B" "1-" ∧
      Dotenv.readLine env'.standing "B=$A-$C" = .assignment "B" "1-3" ∧
      ∀ again, loadConfig again files env' (some "x") = (env', failed) := by
  intro files env env' failed
  have hload : loadConfig .asWritten files env (some "x") = (env', failed) := by decide +kernel
  have hread : fileLayer .asWritten files "x" = .error (.notFound "x") := rfl
  obtain ⟨-, hdefined, -, -, hagain⟩ := loadConfig_again .asWritten files env (some "x")
  rw [hload] at hdefined hagain
  exact ⟨hload, (hdefined "B" "1-" rfl).mp rfl, by decide +kernel, hagain (.unread rfl hread)⟩

/-- **A second loading can end otherwise.** The file gives the log directory twice, in the table of
logging and by a key of the root that spells the way to it. Neither loading changes a variable, and
which directory each of them comes to is up to the order in which it goes through the root. -/
theorem loadConfig_again_otherwise :
    let text := "\x7b\"logging\":\x7b\"log_dir\":\"a\"\x7d,\"logging.log_dir\":\"b\"\x7d"
    let files : FileTree := { entries := [(["c.json"], .file (.text text))] }
    let first := loadConfig .asWritten files [] (some "c.json")
    let second := loadConfig .backwards files first.1 (some "c.json")
    first = ([], .ended (.ok ⟨{ logDir := some "b" }⟩)) ∧
      second = ([], .ended (.ok ⟨{ logDir := some "a" }⟩)) ∧ second.2 ≠ first.2 := by
  decide +kernel +zetaReduce

end

end MonitorCore

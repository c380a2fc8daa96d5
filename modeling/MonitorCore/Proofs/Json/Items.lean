import Mathlib.Tactic.SplitIfs
import MonitorCore.Json.Reader

/-!
# Items between brackets

One loop reads whatever stands between two brackets. Its state, its fuel and its step say how the
items are read; `Items` says which items there are, and nothing of the loop is left in it. So two
readers of one text are compared in two halves: what the first one read is a list of `Items`
(`Items.of_foldItems`), and a loop over these items gives the fold of their values
(`Items.foldItems_gives`), whether it succeeds or not.
-/

namespace MonitorCore.Json

variable {α β σ : Type}

/-! ## Readings one after the other -/

@[simp] theorem Reading.andThen_ok (x : α) (rest : List Char)
    (next : α → List Char → Reading β) : Reading.andThen (.ok (x, rest)) next = next x rest := rfl

@[simp] theorem Reading.andThen_error (fault : Fault) (next : α → List Char → Reading β) :
    Reading.andThen (.error fault) next = .error fault := rfl

@[simp] theorem Reading.map_ok (f : α → β) (x : α) (rest : List Char) :
    Reading.map f (.ok (x, rest)) = .ok (f x, rest) := rfl

@[simp] theorem Reading.map_error (f : α → β) (fault : Fault) :
    Reading.map f (.error fault) = .error fault := rfl

theorem Reading.andThen_eq_ok {first : Reading α} {next : α → List Char → Reading β} {y : β}
    {rest : List Char} :
    first.andThen next = .ok (y, rest) ↔
      ∃ x mid, first = .ok (x, mid) ∧ next x mid = .ok (y, rest) := by
  cases first with
  | error fault => simp
  | ok read => exact ⟨fun h ↦ ⟨_, _, rfl, h⟩, by rintro ⟨x, mid, ⟨⟩, h⟩; exact h⟩

theorem Reading.map_eq_ok {first : Reading α} {f : α → β} {y : β} {rest : List Char} :
    first.map f = .ok (y, rest) ↔ ∃ x, first = .ok (x, rest) ∧ f x = y := by
  rw [Reading.map, Reading.andThen_eq_ok]
  constructor
  · rintro ⟨x, mid, h, ⟨⟩⟩
    exact ⟨x, h, rfl⟩
  · rintro ⟨x, h, rfl⟩
    exact ⟨x, rest, h, rfl⟩

theorem Reading.map_andThen {γ : Type} (f : β → γ) (first : Reading α)
    (next : α → List Char → Reading β) :
    (first.andThen next).map f = first.andThen fun x rest ↦ (next x rest).map f := by
  cases first <;> rfl

theorem Reading.map_map {γ : Type} (f : α → β) (g : β → γ) (first : Reading α) :
    (first.map f).map g = first.map fun x ↦ g (f x) := by
  cases first <;> rfl

/-! ## What a reading gives -/

/-- A reading *gives* a result: it succeeds with it and leaves `rest`, or, where there is no result,
it fails. -/
def Gives (reading : Reading α) (result : Option α) (rest : List Char) : Prop :=
  match result with
  | some x => reading = .ok (x, rest)
  | none => ∃ fault, reading = .error fault

namespace Gives

variable {reading : Reading α} {result : Option α} {mid rest : List Char}

theorem of_eq {x : α} (h : reading = .ok (x, rest)) : Gives reading (some x) rest := h

theorem of_error {fault : Fault} (h : reading = .error fault) : Gives reading none rest :=
  ⟨fault, h⟩

theorem map (h : Gives reading result rest) (f : α → β) :
    Gives (reading.map f) (result.map f) rest := by
  cases result with
  | none => obtain ⟨fault, rfl⟩ := h; exact ⟨fault, rfl⟩
  | some x => obtain rfl : reading = .ok (x, rest) := h; rfl

theorem andThen (h : Gives reading result mid) {next : α → List Char → Reading β}
    {after : α → Option β} (hnext : ∀ x, result = some x → Gives (next x mid) (after x) rest) :
    Gives (reading.andThen next) (result.bind after) rest := by
  cases result with
  | none => obtain ⟨fault, rfl⟩ := h; exact ⟨fault, rfl⟩
  | some x => obtain rfl : reading = .ok (x, mid) := h; exact hnext x rfl

end Gives

/-! ## Items -/

/-- The items `xs` stand in the text `cs` up to the closing bracket, `rest` is what follows it.
`item` says how one of them stands in a text; `first` tells that none stands before them. -/
inductive Items (close : Char) (item : List Char → α → List Char → Prop) :
    Bool → List Char → List α → List Char → Prop
  | nil {first cs rest} : moreItems close first cs = .ok (false, rest) →
      Items close item first cs [] rest
  | cons {first cs mid next rest x xs} : moreItems close first cs = .ok (true, mid) →
      item mid x next → Items close item false next xs rest →
      Items close item first cs (x :: xs) rest

namespace Items

variable {close : Char} {item : List Char → α → List Char → Prop} {first : Bool}
  {cs rest : List Char} {xs : List α}

theorem of_foldItems {read : List Char → Reading α} {fuel : List Char} {done all : Array α}
    (h : foldItems close (fun items rest ↦ (read rest).map items.push) fuel first done cs =
      .ok (all, rest)) :
    ∃ xs, Items close (fun cs x rest ↦ read cs = .ok (x, rest)) first cs xs rest ∧
      all.toList = done.toList ++ xs := by
  induction fuel generalizing first done cs with
  | nil => exact absurd h nofun
  | cons _ fuel ih =>
    obtain ⟨more, mid, hmore, h⟩ := Reading.andThen_eq_ok.1 h
    cases more with
    | false =>
      obtain ⟨rfl, rfl⟩ : done = all ∧ mid = rest := by simpa using h
      exact ⟨[], .nil hmore, by simp⟩
    | true =>
      obtain ⟨items, next, hitem, h⟩ := Reading.andThen_eq_ok.1 h
      obtain ⟨x, hread, rfl⟩ := Reading.map_eq_ok.1 hitem
      obtain ⟨xs, hxs, hall⟩ := ih h
      exact ⟨x :: xs, .cons hmore hread hxs, by simp [hall]⟩

end Items

/-! ## What stands before an item -/

/-- Either the bracket closes, or there is a further item: the first one behind blanks alone, any
other one behind a comma. -/
theorem moreItems_cases {close : Char} {first more : Bool} {cs rest : List Char}
    (h : moreItems close first cs = .ok (more, rest)) :
    (more = false ∧ skipGaps cs = close :: rest) ∨
    (more = true ∧ first = true ∧ skipGaps cs = rest) ∨
    (more = true ∧ first = false ∧ ∃ tail, skipGaps cs = ',' :: tail ∧ skipGaps tail = rest) := by
  rw [moreItems] at h
  split at h
  · exact absurd h nofun
  · next c tail hcs =>
    split_ifs at h with hclose hfirst hcomma
    · obtain ⟨rfl, rfl⟩ : false = more ∧ tail = rest := by simpa using h
      exact .inl ⟨rfl, hclose ▸ hcs⟩
    · obtain ⟨rfl, rfl⟩ : true = more ∧ c :: tail = rest := by simpa using h
      exact .inr (.inl ⟨rfl, hfirst, hcs⟩)
    · split at h
      · exact absurd h nofun
      · next d next hd =>
        split_ifs at h
        obtain ⟨rfl, rfl⟩ : true = more ∧ d :: next = rest := by simpa using h
        exact .inr (.inr ⟨rfl, by simpa using hfirst, tail, hcomma ▸ hcs, hd⟩)

theorem moreItems_of_close {close : Char} {cs rest : List Char} (first : Bool)
    (h : skipGaps cs = close :: rest) : moreItems close first cs = .ok (false, rest) := by
  simp [moreItems, h]

theorem moreItems_first {close c : Char} {cs tail : List Char} (h : skipGaps cs = c :: tail)
    (hc : c ≠ close) : moreItems close true cs = .ok (true, c :: tail) := by
  simp [moreItems, h, hc]

theorem moreItems_next {close c : Char} {cs tail next : List Char} (h : skipGaps cs = ',' :: tail)
    (hcomma : ',' ≠ close) (htail : skipGaps tail = c :: next) (hc : c ≠ close) :
    moreItems close false cs = .ok (true, c :: next) := by
  simp [moreItems, h, hcomma, htail, hc]

/-! ## The length of what is left -/

theorem length_skipGaps_le (cs : List Char) : (skipGaps cs).length ≤ cs.length :=
  (List.dropWhile_suffix isGap).length_le

theorem length_of_moreItems {close : Char} {first more : Bool} {cs rest : List Char}
    (h : moreItems close first cs = .ok (more, rest)) :
    rest.length + (if more then 0 else 1) ≤ cs.length := by
  have hle := length_skipGaps_le cs
  rcases moreItems_cases h with ⟨rfl, hcs⟩ | ⟨rfl, -, hcs⟩ | ⟨rfl, -, tail, hcs, htail⟩
  · rwa [hcs] at hle
  · rwa [hcs] at hle
  · have hrest := length_skipGaps_le tail
    rw [hcs, List.length_cons] at hle
    rw [htail] at hrest
    simp only [if_pos]
    omega

/-- Whatever stands in a text takes a character at least. -/
def Shrinks (item : List Char → α → List Char → Prop) : Prop :=
  ∀ cs x rest, item cs x rest → rest.length < cs.length

namespace Items

variable {close : Char} {item : List Char → α → List Char → Prop} {first : Bool}
  {cs rest : List Char} {xs : List α}

theorem length_add_lt (h : Items close item first cs xs rest) (hitem : Shrinks item) :
    xs.length + rest.length < cs.length := by
  induction h with
  | nil hmore =>
    have := length_of_moreItems hmore
    simp at this ⊢
    omega
  | cons hmore hx _ ih =>
    have hmid := length_of_moreItems hmore
    have hnext := hitem _ _ _ hx
    simp only [if_pos, List.length_cons] at hmid ⊢
    omega

theorem within (h : Items close item first cs xs rest) (hitem : Shrinks item) {n : Nat}
    (hn : cs.length ≤ n) :
    Items close (fun cs x rest ↦ item cs x rest ∧ cs.length ≤ n) first cs xs rest := by
  induction h with
  | nil hmore => exact .nil hmore
  | cons hmore hx _ ih =>
    have hmid := length_of_moreItems hmore
    have hnext := hitem _ _ _ hx
    rw [if_pos rfl] at hmid
    exact .cons hmore ⟨hx, by omega⟩ (ih (by omega))

/-! ## Loops over items -/

/-- A loop over the items gives the fold of their values, if each of its steps gives what `apply`
says in the states that `Holds` is about. -/
theorem foldItems_gives {step : σ → List Char → Reading σ} {apply : σ → α → Option σ}
    {Holds : σ → Prop} (h : Items close item first cs xs rest)
    (hstep : ∀ x ∈ xs, ∀ cs rest, item cs x rest →
      ∀ s, Holds s → Gives (step s cs) (apply s x) rest)
    (hkeep : ∀ s x s', Holds s → apply s x = some s' → Holds s')
    {fuel : List Char} (hfuel : xs.length < fuel.length) {s : σ} (hs : Holds s) :
    Gives (foldItems close step fuel first s cs) (xs.foldlM apply s) rest := by
  induction h generalizing fuel s with
  | nil hmore =>
    obtain ⟨_, fuel, rfl⟩ :=
      List.exists_cons_of_length_pos (Nat.lt_of_le_of_lt (Nat.zero_le _) hfuel)
    rw [foldItems, hmore]
    exact .of_eq rfl
  | cons hmore hitem _ ih =>
    obtain ⟨_, fuel, rfl⟩ :=
      List.exists_cons_of_length_pos (Nat.lt_of_le_of_lt (Nat.zero_le _) hfuel)
    rw [foldItems, hmore, List.foldlM_cons]
    refine (hstep _ (.head _) _ _ hitem s hs).andThen fun s' hs' ↦ ?_
    exact ih (fun x hx ↦ hstep x (.tail _ hx)) (Nat.lt_of_succ_lt_succ hfuel) (hkeep _ _ _ hs hs')

/-- A text has fuel enough for the items that stand in it. -/
theorem foldAll_gives_of_holds {step : σ → List Char → Reading σ} {apply : σ → α → Option σ}
    {Holds : σ → Prop} (h : Items close item true cs xs rest) (hitem : Shrinks item)
    (hstep : ∀ x ∈ xs, ∀ cs rest, item cs x rest →
      ∀ s, Holds s → Gives (step s cs) (apply s x) rest)
    (hkeep : ∀ s x s', Holds s → apply s x = some s' → Holds s') {s : σ} (hs : Holds s) :
    Gives (foldAll close step s cs) (xs.foldlM apply s) rest :=
  have hfuel := Nat.lt_of_le_of_lt (Nat.le_add_right ..) (h.length_add_lt hitem)
  h.foldItems_gives hstep hkeep hfuel hs

theorem foldAll_gives {step : σ → List Char → Reading σ} {apply : σ → α → Option σ}
    (h : Items close item true cs xs rest) (hitem : Shrinks item)
    (hstep : ∀ x ∈ xs, ∀ cs rest, item cs x rest → ∀ s, Gives (step s cs) (apply s x) rest)
    (s : σ) :
    Gives (foldAll close step s cs) (xs.foldlM apply s) rest :=
  have hall : ∀ x ∈ xs, ∀ cs rest, item cs x rest → ∀ s, (fun _ ↦ True) s →
      Gives (step s cs) (apply s x) rest := fun x hx cs rest h s _ ↦ hstep x hx cs rest h s
  h.foldAll_gives_of_holds hitem hall (fun _ _ _ _ _ ↦ trivial) trivial

theorem foldAll_push {read : List Char → Reading α}
    (h : Items close (fun cs x rest ↦ read cs = .ok (x, rest)) true cs xs rest)
    (hitem : Shrinks fun cs x rest ↦ read cs = .ok (x, rest)) :
    foldAll close (fun (items : Array α) rest ↦ (read rest).map items.push) #[] cs =
      .ok (xs.toArray, rest) := by
  have hstep : ∀ x ∈ xs, ∀ cs rest, read cs = .ok (x, rest) → ∀ items : Array α,
      Gives ((read cs).map items.push) (pure (items.push x)) rest := fun x _ cs rest hx items ↦
    (Gives.of_eq hx).map items.push
  have hfold := h.foldAll_gives hitem hstep #[]
  have hall : xs.foldl Array.push #[] = xs.toArray := by simp
  rw [List.foldlM_pure, hall] at hfold
  exact hfold

theorem foldAll_unit {step : Unit → List Char → Reading Unit}
    (h : Items close item true cs xs rest) (hitem : Shrinks item)
    (hstep : ∀ cs x rest, item cs x rest → step () cs = .ok ((), rest)) :
    foldAll close step () cs = .ok ((), rest) := by
  have hgives : ∀ x ∈ xs, ∀ cs rest, item cs x rest → ∀ s : Unit,
      Gives (step s cs) (pure ()) rest := fun x _ cs rest hx _ ↦ hstep cs x rest hx
  have hfold := h.foldAll_gives hitem hgives ()
  rw [List.foldlM_pure] at hfold
  exact hfold

end Items

end MonitorCore.Json

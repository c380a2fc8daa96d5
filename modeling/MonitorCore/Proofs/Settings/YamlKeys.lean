import Mathlib.Tactic.SplitIfs
import MonitorCore.Proofs.Settings.Distinct
import MonitorCore.Settings.Yaml

/-!
# Keys of YAML documents

Mappings are made from keys and values in turn, entered one after the other, so none has a key
twice. An alias stands for a value that was made before. So what the grammar has to keep up is that
the values it knows at anchors are without repeated keys (`Reading.Sound`); then everything it
yields is, too.
-/

namespace MonitorCore.Yaml

namespace Node

/-- No mapping in the value has a key twice. -/
inductive Distinct : Node → Prop
  | absent : Distinct .absent
  | nil : Distinct .nil
  | boolean (b : Bool) : Distinct (.boolean b)
  | integer (i : Int) : Distinct (.integer i)
  | float (value : Option Decimal.Binary64) : Distinct (.float value)
  | text (s : String) : Distinct (.text s)
  | list {items : List Node} (hitems : ∀ item ∈ items, Distinct item) : Distinct (.list items)
  | table {members : List (String × Node)} (hnodup : (members.map Prod.fst).Nodup)
      (hvalues : ∀ member ∈ members, Distinct member.2) : Distinct (.table members)

variable {node : Node} {nodes items : List Node} {members : List (String × Node)}

/-! ## Scalars and mappings -/

theorem distinct_of_readFloat? {s : String} (h : readFloat? s = some node) : node.Distinct := by
  rw [readFloat?] at h
  split at h
  · exact Option.some.inj h ▸ .float none
  · obtain ⟨x, -, rfl⟩ := Option.map_eq_some_iff.1 h
    exact .float (some x)

theorem distinct_getD {found : Option Node} {otherwise : Node}
    (h : ∀ node, found = some node → node.Distinct) (hotherwise : otherwise.Distinct) :
    (found.getD otherwise).Distinct := by
  cases found with
  | none => exact hotherwise
  | some node => exact h node rfl

theorem ofPlain_distinct (s : String) : (ofPlain s).Distinct := by
  rw [ofPlain]
  split
  · exact .integer _
  · split_ifs
    · exact .nil
    · exact .boolean true
    · exact .boolean false
    · exact distinct_getD (fun _ ↦ distinct_of_readFloat?) (.text s)

theorem ofTagged_distinct (name s : String) : (ofTagged name s).Distinct := by
  unfold ofTagged
  split
  · split_ifs
    · exact .boolean true
    · exact .boolean false
    · exact .absent
  · refine distinct_getD (fun node h ↦ ?_) .absent
    obtain ⟨i, -, rfl⟩ := Option.map_eq_some_iff.1 h
    exact .integer i
  · exact distinct_getD (fun _ ↦ distinct_of_readFloat?) .absent
  · split_ifs
    · exact .nil
    · exact .absent
  · exact .text s

theorem ofScalar_distinct (tag : Option Tag) (plain : Bool) (s : String) :
    (ofScalar tag plain s).Distinct := by
  unfold ofScalar
  split_ifs
  · exact .text s
  · split
    · exact ofPlain_distinct s
    · exact ofTagged_distinct _ s
    · exact .text s

theorem pairUp_keyed (hnodes : ∀ node ∈ nodes, node.Distinct) (hmembers : Keyed Distinct members) :
    Keyed Distinct (pairUp nodes members) := by
  fun_induction pairUp nodes members with
  -- an absent value is no key: the next one is
  | case1 value nodes members ih =>
    exact ih (List.forall_mem_cons.1 hnodes).2 hmembers
  | case2 value nodes members s ih =>
    obtain ⟨-, hvalue, hrest⟩ := by simpa only [List.forall_mem_cons] using hnodes
    exact ih hrest (hmembers.enter s hvalue)
  | case3 key value nodes members _ _ ih =>
    obtain ⟨-, -, hrest⟩ := by simpa only [List.forall_mem_cons] using hnodes
    exact ih hrest hmembers
  | case4 => exact hmembers

theorem ofPairs_distinct (hnodes : ∀ node ∈ nodes, node.Distinct) : (ofPairs nodes).Distinct :=
  have h := pairUp_keyed hnodes .nil
  .table h.nodup h.values

/-! ## Documents -/

theorem mem_itemsToDocuments? {documents : List Document} {document : Document}
    (h : itemsToDocuments? items = some documents) (hmem : document ∈ documents) :
    ∃ item ∈ items, item.toDocument? = some document := by
  induction items generalizing documents with
  | nil => cases h; exact nomatch hmem
  | cons item items ih =>
    rw [itemsToDocuments?] at h
    split at h
    · next hitem hitems =>
      cases h
      rcases List.mem_cons.1 hmem with rfl | hmem
      · exact ⟨item, .head _, hitem⟩
      · obtain ⟨source, hsource, heq⟩ := ih hitems hmem
        exact ⟨source, .tail _ hsource, heq⟩
    · exact nomatch h

theorem membersToDocuments?_eq_some {documents : List (String × Document)}
    (h : membersToDocuments? members = some documents) :
    documents.map Prod.fst = members.map Prod.fst ∧
      ∀ entry ∈ documents, ∃ member ∈ members, member.2.toDocument? = some entry.2 := by
  induction members generalizing documents with
  | nil => cases h; exact ⟨rfl, nofun⟩
  | cons member members ih =>
    rw [membersToDocuments?] at h
    split at h
    · next hvalue hmembers =>
      cases h
      obtain ⟨hkeys, hfrom⟩ := ih hmembers
      refine ⟨by rw [List.map_cons, List.map_cons, hkeys], List.forall_mem_cons.2 ⟨?_, ?_⟩⟩
      · exact ⟨member, .head _, hvalue⟩
      · intro entry hentry
        obtain ⟨source, hsource, heq⟩ := hfrom entry hentry
        exact ⟨source, .tail _ hsource, heq⟩
    · exact nomatch h

theorem Distinct.toDocument? (h : node.Distinct) {document : Document}
    (hdocument : node.toDocument? = some document) : document.Distinct := by
  induction h generalizing document with
  | absent | nil | boolean | integer | text => cases hdocument; exact .scalar _
  | float value =>
    obtain ⟨x, -, rfl⟩ := Option.map_eq_some_iff.1 hdocument
    exact .scalar _
  | list hitems ih =>
    obtain ⟨documents, hdocuments, rfl⟩ := Option.map_eq_some_iff.1 hdocument
    refine .list fun document hmem ↦ ?_
    obtain ⟨item, hitem, heq⟩ := mem_itemsToDocuments? hdocuments hmem
    exact ih item hitem heq
  | table hnodup hvalues ih =>
    obtain ⟨documents, hdocuments, rfl⟩ := Option.map_eq_some_iff.1 hdocument
    obtain ⟨hkeys, hfrom⟩ := membersToDocuments?_eq_some hdocuments
    refine .table (hkeys ▸ hnodup) fun entry hentry ↦ ?_
    obtain ⟨member, hmember, heq⟩ := hfrom entry hentry
    exact ih member hmember heq

end Node

/-! ## What a reading yields -/

namespace Reading

variable {reading : Reading}

/-- The values at anchors are without repeated keys. -/
def Sound (reading : Reading) : Prop := ∀ entry ∈ reading.values, entry.2.Distinct

theorem Sound.define (h : reading.Sound) (anchor : Option Nat) {node : Node}
    (hnode : node.Distinct) : (reading.define anchor node).Sound := by
  cases anchor with
  | none => exact h
  | some number => exact List.forall_mem_cons.2 ⟨hnode, h⟩

theorem Sound.alias? (h : reading.Sound) {name : String} {node : Node}
    (halias : reading.alias? name = some node) : node.Distinct := by
  obtain ⟨number, -, rfl⟩ := Option.map_eq_some_iff.1 halias
  refine Node.distinct_getD (fun node hlookup ↦ ?_) .absent
  obtain ⟨before, after, hvalues, -⟩ := List.lookup_eq_some_iff.1 hlookup
  exact h (number, node) (hvalues ▸ List.mem_append_right _ (.head _))

end Reading

theorem readProperties_sound {reading : Reading} (h : reading.Sound) :
    (readProperties reading).2.Sound := by
  unfold readProperties
  split <;> exact h

theorem distinct_of_emptyScalar? {properties : Properties} {node : Node}
    (h : emptyScalar? properties = some node) : node.Distinct := by
  rw [emptyScalar?] at h
  split at h
  · exact nomatch h
  · exact Option.some.inj h ▸ Node.ofScalar_distinct ..

variable {α β : Type} {P : α → Prop} {Q : β → Prop} {outcome : Option (α × Reading)}

/-- What is yielded, if anything, is as required, and the reading stays sound. -/
def Yields (P : α → Prop) (outcome : Option (α × Reading)) : Prop :=
  ∀ x reading, outcome = some (x, reading) → P x ∧ reading.Sound

theorem yields_none : Yields P none := nofun

theorem yields_some {x : α} {reading : Reading} (hx : P x) (h : reading.Sound) :
    Yields P (some (x, reading)) := by
  rintro _ _ ⟨⟩
  exact ⟨hx, h⟩

theorem Yields.map (h : Yields P outcome) {f : α × Reading → β × Reading}
    (hf : ∀ x reading, P x → reading.Sound → Q (f (x, reading)).1 ∧ (f (x, reading)).2.Sound) :
    Yields Q (outcome.map f) := by
  intro y reading heq
  obtain ⟨⟨x, reading'⟩, hx, hfx⟩ := Option.map_eq_some_iff.1 heq
  obtain ⟨hP, hsound⟩ := h x reading' hx
  have hQ := hf x reading' hP hsound
  rwa [hfx] at hQ

theorem Yields.bind (h : Yields P outcome) {f : α × Reading → Option (β × Reading)}
    (hf : ∀ x reading, P x → reading.Sound → Yields Q (f (x, reading))) :
    Yields Q (outcome.bind f) := by
  intro y reading heq
  obtain ⟨⟨x, reading'⟩, hx, hfx⟩ := Option.bind_eq_some_iff.1 heq
  obtain ⟨hP, hsound⟩ := h x reading' hx
  exact hf x reading' hP hsound y reading hfx

def AllDistinct (nodes : List Node) : Prop := ∀ node ∈ nodes, node.Distinct

theorem Yields.cons {item : Option (Node × Reading)} (h : Yields Node.Distinct item)
    {more : Reading → Option (List Node × Reading)}
    (hmore : ∀ reading, reading.Sound → Yields AllDistinct (more reading)) :
    Yields AllDistinct (item.bind fun (node, reading) ↦
      (more reading).map fun (nodes, reading) ↦ (node :: nodes, reading)) :=
  h.bind fun _ reading hnode hsound ↦ (hmore reading hsound).map fun _ _ hnodes hsound ↦
    ⟨List.forall_mem_cons.2 ⟨hnode, hnodes⟩, hsound⟩

theorem Yields.member {key : Node} (hkey : key.Distinct) {value : Option (Node × Reading)}
    (h : Yields Node.Distinct value) {more : Reading → Option (List Node × Reading)}
    (hmore : ∀ reading, reading.Sound → Yields AllDistinct (more reading)) :
    Yields AllDistinct (value.bind fun (value, reading) ↦
      (more reading).map fun (nodes, reading) ↦ (key :: value :: nodes, reading)) :=
  h.bind fun _ reading hvalue hsound ↦ (hmore reading hsound).map fun _ _ hnodes hsound ↦
    ⟨List.forall_mem_cons.2 ⟨hkey, List.forall_mem_cons.2 ⟨hvalue, hnodes⟩⟩, hsound⟩

/-! ## The grammar -/

mutual

theorem readNode_yields (place : Place) : ∀ (fuel : Nat) {reading : Reading}, reading.Sound →
    Yields Node.Distinct (readNode place fuel reading)
  | 0, _, _ => yields_none
  | fuel + 1, reading, h => by
    rw [readNode]
    split
    -- an alias stands for a value that is known, and reads nothing
    · intro node reading' heq
      obtain ⟨found, halias, heq⟩ := Option.map_eq_some_iff.1 heq
      cases heq
      exact ⟨h.alias? halias, h⟩
    · exact (readContent_yields place fuel _ (readProperties_sound h)).map
        fun node reading hnode hsound ↦ ⟨hnode, hsound.define _ hnode⟩

theorem readContent_yields (place : Place) : ∀ (fuel : Nat) (properties : Properties)
    {reading : Reading}, reading.Sound →
      Yields Node.Distinct (readContent place fuel properties reading)
  | 0, _, _, _ => yields_none
  | fuel + 1, properties, reading, h => by
    unfold readContent
    -- what each kind of content is made of, apart from where it is found
    extract_lets empty list table
    have hempty : Yields Node.Distinct empty := by
      intro node reading' heq
      obtain ⟨found, hfound, heq⟩ := Option.map_eq_some_iff.1 heq
      cases heq
      exact ⟨distinct_of_emptyScalar? hfound, h⟩
    have hlist {items : Option (List Node × Reading)} (hitems : Yields AllDistinct items) :
        Yields Node.Distinct (list items) :=
      hitems.map fun _ _ hnodes hsound ↦ ⟨.list hnodes, hsound⟩
    have htable {members : Option (List Node × Reading)} (hmembers : Yields AllDistinct members) :
        Yields Node.Distinct (table members) :=
      hmembers.map fun _ _ hnodes hsound ↦ ⟨Node.ofPairs_distinct hnodes, hsound⟩
    split
    · exact yields_some (Node.ofScalar_distinct ..) h
    · exact hlist (readFlowItems_yields true fuel h)
    · exact htable (readFlowMembers_yields true fuel h)
    · split_ifs
      · exact hlist (readBlockItems_yields fuel h)
      · exact hempty
    · split_ifs
      · exact htable (readBlockMembers_yields fuel h)
      · exact hempty
    · split_ifs
      · exact hlist (readLevelItems_yields fuel h)
      · exact hempty
    · exact hempty

theorem readBlockItems_yields : ∀ (fuel : Nat) {reading : Reading}, reading.Sound →
    Yields AllDistinct (readBlockItems fuel reading)
  | 0, _, _ => yields_none
  | fuel + 1, reading, h => by
    rw [readBlockItems]
    split
    · exact yields_some nofun h
    · refine Yields.cons ?_ fun reading hsound ↦ readBlockItems_yields fuel hsound
      split
      · exact yields_some .nil h
      · exact yields_some .nil h
      · exact readNode_yields .item fuel h
    · exact yields_none

theorem readLevelItems_yields : ∀ (fuel : Nat) {reading : Reading}, reading.Sound →
    Yields AllDistinct (readLevelItems fuel reading)
  | 0, _, _ => yields_none
  | fuel + 1, reading, h => by
    rw [readLevelItems]
    split
    · refine Yields.cons ?_ fun reading hsound ↦ readLevelItems_yields fuel hsound
      split_ifs
      · exact yields_some .nil h
      · exact readNode_yields .item fuel h
    · exact yields_some nofun h

theorem readBlockMembers_yields : ∀ (fuel : Nat) {reading : Reading}, reading.Sound →
    Yields AllDistinct (readBlockMembers fuel reading)
  | 0, _, _ => yields_none
  | fuel + 1, reading, h => by
    unfold readBlockMembers
    extract_lets part value member
    have hpart (reading : Reading) (h : reading.Sound) : Yields Node.Distinct (part reading) := by
      unfold part
      split_ifs
      · exact yields_some .nil h
      · exact readNode_yields .member fuel h
    have hvalue (reading : Reading) (h : reading.Sound) : Yields Node.Distinct (value reading) := by
      unfold value
      split_ifs
      · exact hpart _ h
      · exact yields_some .nil h
    have hmember (key : Option (Node × Reading)) (hkey : Yields Node.Distinct key) :
        Yields AllDistinct (member key) :=
      hkey.bind fun key reading hkey hsound ↦
        (hvalue reading hsound).member hkey fun _ hsound ↦ readBlockMembers_yields fuel hsound
    split
    · exact yields_some nofun h
    · exact hmember _ (hpart _ h)
    · exact hmember _ (yields_some .nil h)
    · exact yields_none

theorem readFlowItems_yields (first : Bool) : ∀ (fuel : Nat) {reading : Reading}, reading.Sound →
    Yields AllDistinct (readFlowItems first fuel reading)
  | 0, _, _ => yields_none
  | fuel + 1, reading, h => by
    unfold readFlowItems
    extract_lets more next
    have hmore (item : Option (Node × Reading)) (hitem : Yields Node.Distinct item) :
        Yields AllDistinct (more item) :=
      hitem.cons fun _ hsound ↦ readFlowItems_yields false fuel hsound
    have hnext (reading : Reading) (h : reading.Sound) : Yields AllDistinct (next reading) := by
      unfold next
      split
      · exact yields_some nofun h
      · exact hmore _ (readPair_yields fuel h)
      · exact hmore _ (readNode_yields .flow fuel h)
    split
    · exact yields_some nofun h
    · split_ifs
      · exact hnext _ h
      · exact hnext _ h
    · split_ifs
      · exact hnext _ h
      · exact yields_none

theorem readPair_yields : ∀ (fuel : Nat) {reading : Reading}, reading.Sound →
    Yields Node.Distinct (readPair fuel reading)
  | 0, _, _ => yields_none
  | fuel + 1, reading, h => by
    unfold readPair
    extract_lets key value
    have hkey : Yields Node.Distinct key := by
      unfold key
      split
      · exact yields_some .nil h
      · exact yields_some .nil h
      · exact yields_some .nil h
      · exact readNode_yields .flow fuel h
    have hvalue (reading : Reading) (h : reading.Sound) : Yields Node.Distinct (value reading) := by
      unfold value
      split
      · extract_lets reading'
        split
        · exact yields_some .nil h
        · exact yields_some .nil h
        · exact readNode_yields .flow fuel h
      · exact yields_some .nil h
    refine hkey.bind fun key reading hkey hsound ↦ (hvalue reading hsound).map
      fun value reading hvalue hsound ↦ ⟨Node.ofPairs_distinct ?_, hsound⟩
    exact List.forall_mem_cons.2 ⟨hkey, List.forall_mem_singleton.2 hvalue⟩

theorem readFlowMembers_yields (first : Bool) : ∀ (fuel : Nat) {reading : Reading}, reading.Sound →
    Yields AllDistinct (readFlowMembers first fuel reading)
  | 0, _, _ => yields_none
  | fuel + 1, reading, h => by
    unfold readFlowMembers
    extract_lets more value marked next
    have hmore (key : Node) (hkey : key.Distinct) (value : Option (Node × Reading))
        (hvalue : Yields Node.Distinct value) : Yields AllDistinct (more key value) :=
      hvalue.member hkey fun _ hsound ↦ readFlowMembers_yields false fuel hsound
    have hvalue (reading : Reading) (h : reading.Sound) : Yields Node.Distinct (value reading) := by
      unfold value
      split
      · extract_lets reading'
        split
        · exact yields_some .nil h
        · exact yields_some .nil h
        · exact readNode_yields .flow fuel h
      · exact yields_some .nil h
    have hmarked (reading : Reading) (h : reading.Sound) : Yields AllDistinct (marked reading) := by
      unfold marked
      split
      · exact hmore _ .nil _ (hvalue _ h)
      · exact hmore _ .nil _ (hvalue _ h)
      · exact hmore _ .nil _ (hvalue _ h)
      · exact (readNode_yields .flow fuel h).bind fun key reading hkey hsound ↦
          hmore key hkey _ (hvalue reading hsound)
    have hnext (reading : Reading) (h : reading.Sound) : Yields AllDistinct (next reading) := by
      unfold next
      split
      · exact yields_some nofun h
      · exact hmarked _ h
      · exact hmore _ .nil _ (hvalue _ h)
      · exact (readNode_yields .flow fuel h).bind fun key reading hkey hsound ↦
          hmore key hkey _ (yields_some .nil hsound)
    split
    · exact yields_some nofun h
    · split_ifs
      · exact hnext _ h
      · exact hnext _ h
    · split_ifs
      · exact hnext _ h
      · exact yields_none

end

/-! ## Documents -/

theorem readRoot_distinct {marked : Bool} {tokens rest : List Token} {node : Node}
    (h : readRoot marked tokens = some (node, rest)) : node.Distinct := by
  unfold readRoot at h
  extract_lets nothing at h
  split at h
  · cases h
    exact .nil
  · obtain ⟨⟨found, reading⟩, hfound, heq⟩ := Option.map_eq_some_iff.1 h
    cases heq
    have hsound : Reading.Sound ⟨tokens, [], []⟩ := List.forall_mem_nil _
    exact (readNode_yields .item _ hsound _ _ hfound).1

theorem readStream_distinct {tokens : List Token} {node : Node}
    (h : readStream tokens = some node) : node.Distinct := by
  unfold readStream at h
  extract_lets root at h
  have hroot {rest : List Token} (h : root = some (node, rest)) : node.Distinct := by
    unfold root at h
    split at h
    · exact readRoot_distinct h
    · split_ifs at h
      exact readRoot_distinct h
  split_ifs at h
  · cases h
    exact .table .nil nofun
  · obtain ⟨⟨found, rest⟩, hfound, heq⟩ := Option.bind_eq_some_iff.1 h
    simp only [Option.ite_none_right_eq_some, Option.some.injEq] at heq
    exact hroot (heq.2 ▸ hfound)

theorem read_distinct {s : String} {document : Document} (h : read s = some document) :
    document.Distinct := by
  obtain ⟨node, hnode, hdocument⟩ := Option.bind_eq_some_iff.1 h
  obtain ⟨tokens, -, hnode⟩ := Option.bind_eq_some_iff.1 hnode
  exact (readStream_distinct hnode).toDocument? hdocument

end MonitorCore.Yaml

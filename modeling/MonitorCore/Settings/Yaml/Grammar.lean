import MonitorCore.Settings.Yaml.Node

/-!
# From tokens to a value

The grammar of a document over tokens, by recursion on its structure: lists and mappings, by
indentation or in brackets, and scalars, each with a tag, an anchor or both in front.

A key or a value that is missing is nil. After a tag or an anchor a value may be missing, too; it is
then the empty scalar.

An alias stands for the value at the last anchor of its name. Anchors are numbered as they come, so
an alias within the very value that its anchor belongs to finds a number, but no value yet.
-/

namespace MonitorCore.Yaml

/-- The tokens that are left, and what is known of anchors. -/
structure Reading where
  tokens : List Token
  /-- The names of anchors and their numbers, the last one first. -/
  anchors : List (String × Nat)
  /-- The values at anchors by number. -/
  values : List (Nat × Node)

namespace Reading

def advance (reading : Reading) : Reading := { reading with tokens := reading.tokens.tail }

def peek (reading : Reading) : Option Token := reading.tokens.head?

/-- The number of a new anchor, which takes over its name. -/
def register (name : String) (reading : Reading) : Nat × Reading :=
  let number := reading.anchors.length
  (number, { reading with anchors := (name, number) :: reading.anchors })

/-- The reading that knows the value at an anchor, if there is one. -/
def define (anchor : Option Nat) (node : Node) (reading : Reading) : Reading :=
  match anchor with
  | none => reading
  | some number => { reading with values := (number, node) :: reading.values }

/-- The value that an alias stands for; none if there is no such anchor. -/
def alias? (name : String) (reading : Reading) : Option Node :=
  (reading.anchors.lookup name).map fun number ↦
    (reading.values.lookup number).getD .absent

end Reading

/-- What stands in front of a value: the number of its anchor, and its tag. -/
structure Properties where
  anchor : Option Nat
  tag : Option Tag
  deriving DecidableEq, Repr

/-- The properties in front of a value, at most one of either kind, in either order. -/
def readProperties (reading : Reading) : Properties × Reading :=
  match reading.tokens with
  | .anchor name :: .tag tag :: _ =>
    let (number, reading) := reading.register name
    (⟨some number, some tag⟩, reading.advance.advance)
  | .anchor name :: _ =>
    let (number, reading) := reading.register name
    (⟨some number, none⟩, reading.advance)
  | .tag tag :: .anchor name :: _ =>
    let (number, reading) := reading.register name
    (⟨some number, some tag⟩, reading.advance.advance)
  | .tag tag :: _ => (⟨none, some tag⟩, reading.advance)
  | _ => (⟨none, none⟩, reading)

/-- The empty scalar, which may stand for a value only behind a tag or an anchor. -/
def emptyScalar? (properties : Properties) : Option Node :=
  if properties = ⟨none, none⟩ then none else some (Node.ofScalar properties.tag true "")

/-- Which collections may begin at a place. -/
structure Place where
  /-- Collections by indentation. -/
  block : Bool
  /-- A list by indentation that is indented no farther than the mapping it is in. -/
  level : Bool
  deriving DecidableEq, Repr

namespace Place

/-- Within brackets. -/
def flow : Place := ⟨false, false⟩

/-- An item of a list by indentation, or a whole document. -/
def item : Place := ⟨true, false⟩

/-- A key or a value of a mapping by indentation. -/
def member : Place := ⟨true, true⟩

end Place

/-- Whether a key or a value of a mapping by indentation is missing in front of a token. -/
def endsMember : Option Token → Bool
  | some .key => true
  | some .value => true
  | some .blockEnd => true
  | _ => false

mutual

def readNode (place : Place) : Nat → Reading → Option (Node × Reading)
  | 0, _ => none
  | fuel + 1, reading =>
    match reading.peek with
    | some (.alias name) => (reading.alias? name).map fun node ↦ (node, reading.advance)
    | _ =>
      let (properties, reading) := readProperties reading
      (readContent place fuel properties reading).map fun (node, reading) ↦
        (node, reading.define properties.anchor node)

def readContent (place : Place) : Nat → Properties → Reading → Option (Node × Reading)
  | 0, _, _ => none
  | fuel + 1, properties, reading =>
    let empty := (emptyScalar? properties).map fun node ↦ (node, reading)
    let list (items : Option (List Node × Reading)) : Option (Node × Reading) :=
      items.map fun (nodes, reading) ↦ (.list nodes, reading)
    let table (members : Option (List Node × Reading)) : Option (Node × Reading) :=
      members.map fun (nodes, reading) ↦ (.ofPairs nodes, reading)
    match reading.peek with
    | some (.scalar plain text) =>
      some (Node.ofScalar properties.tag plain text, reading.advance)
    | some .flowSequence => list (readFlowItems true fuel reading.advance)
    | some .flowMapping => table (readFlowMembers true fuel reading.advance)
    | some .blockSequence =>
      if place.block then list (readBlockItems fuel reading.advance) else empty
    | some .blockMapping =>
      if place.block then table (readBlockMembers fuel reading.advance) else empty
    | some .blockEntry => if place.level then list (readLevelItems fuel reading) else empty
    | _ => empty

/-- The items of a list by indentation, up to its end. -/
def readBlockItems : Nat → Reading → Option (List Node × Reading)
  | 0, _ => none
  | fuel + 1, reading =>
    match reading.peek with
    | some .blockEnd => some ([], reading.advance)
    | some .blockEntry =>
      let reading := reading.advance
      let item :=
        match reading.peek with
        | some .blockEntry => some (Node.nil, reading)
        | some .blockEnd => some (Node.nil, reading)
        | _ => readNode .item fuel reading
      item.bind fun (node, reading) ↦
        (readBlockItems fuel reading).map fun (nodes, reading) ↦ (node :: nodes, reading)
    | _ => none

/-- The items of a list that is indented no farther than the mapping it is in. -/
def readLevelItems : Nat → Reading → Option (List Node × Reading)
  | 0, _ => none
  | fuel + 1, reading =>
    match reading.peek with
    | some .blockEntry =>
      let reading := reading.advance
      let item :=
        if reading.peek = some .blockEntry ∨ endsMember reading.peek then some (Node.nil, reading)
        else readNode .item fuel reading
      item.bind fun (node, reading) ↦
        (readLevelItems fuel reading).map fun (nodes, reading) ↦ (node :: nodes, reading)
    | _ => some ([], reading)

/-- The keys and values of a mapping by indentation in turn, up to its end. -/
def readBlockMembers : Nat → Reading → Option (List Node × Reading)
  | 0, _ => none
  | fuel + 1, reading =>
    let part (reading : Reading) : Option (Node × Reading) :=
      if endsMember reading.peek then some (.nil, reading) else readNode .member fuel reading
    let value (reading : Reading) : Option (Node × Reading) :=
      if reading.peek = some .value then part reading.advance else some (.nil, reading)
    let member (key : Option (Node × Reading)) : Option (List Node × Reading) :=
      key.bind fun (key, reading) ↦
        (value reading).bind fun (value, reading) ↦
          (readBlockMembers fuel reading).map fun (nodes, reading) ↦
            (key :: value :: nodes, reading)
    match reading.peek with
    | some .blockEnd => some ([], reading.advance)
    | some .key => member (part reading.advance)
    | some .value => member (some (.nil, reading))
    | _ => none

/-- The items of a list in brackets, up to its closing bracket; a comma stands in front of each but
the first one. An item may be a single pair of a key and a value, which is a mapping. -/
def readFlowItems (first : Bool) : Nat → Reading → Option (List Node × Reading)
  | 0, _ => none
  | fuel + 1, reading =>
    let more (item : Option (Node × Reading)) : Option (List Node × Reading) :=
      item.bind fun (node, reading) ↦
        (readFlowItems false fuel reading).map fun (nodes, reading) ↦ (node :: nodes, reading)
    let next (reading : Reading) : Option (List Node × Reading) :=
      match reading.peek with
      | some .flowSequenceEnd => some ([], reading.advance)
      | some .key => more (readPair fuel reading.advance)
      | _ => more (readNode .flow fuel reading)
    match reading.peek with
    | some .flowSequenceEnd => some ([], reading.advance)
    | some .flowEntry => next (if first then reading else reading.advance)
    | _ => if first then next reading else none

/-- A pair in a list in brackets, whose mark has been read. If its key is missing, the token in the
place of the key is passed over. -/
def readPair : Nat → Reading → Option (Node × Reading)
  | 0, _ => none
  | fuel + 1, reading =>
    let key :=
      match reading.peek with
      | some .value => some (Node.nil, reading.advance)
      | some .flowEntry => some (Node.nil, reading.advance)
      | some .flowSequenceEnd => some (Node.nil, reading.advance)
      | _ => readNode .flow fuel reading
    let value (reading : Reading) : Option (Node × Reading) :=
      match reading.peek with
      | some .value =>
        let reading := reading.advance
        match reading.peek with
        | some .flowEntry => some (.nil, reading)
        | some .flowSequenceEnd => some (.nil, reading)
        | _ => readNode .flow fuel reading
      | _ => some (.nil, reading)
    key.bind fun (key, reading) ↦
      (value reading).map fun (value, reading) ↦ (.ofPairs [key, value], reading)

/-- The keys and values of a mapping in brackets in turn, up to its closing bracket; a comma stands
in front of each key but the first one. -/
def readFlowMembers (first : Bool) : Nat → Reading → Option (List Node × Reading)
  | 0, _ => none
  | fuel + 1, reading =>
    let more (key : Node) (value : Option (Node × Reading)) : Option (List Node × Reading) :=
      value.bind fun (value, reading) ↦
        (readFlowMembers false fuel reading).map fun (nodes, reading) ↦
          (key :: value :: nodes, reading)
    let value (reading : Reading) : Option (Node × Reading) :=
      match reading.peek with
      | some .value =>
        let reading := reading.advance
        match reading.peek with
        | some .flowEntry => some (.nil, reading)
        | some .flowMappingEnd => some (.nil, reading)
        | _ => readNode .flow fuel reading
      | _ => some (.nil, reading)
    let marked (reading : Reading) : Option (List Node × Reading) :=
      match reading.peek with
      | some .value => more .nil (value reading)
      | some .flowEntry => more .nil (value reading)
      | some .flowMappingEnd => more .nil (value reading)
      | _ =>
        (readNode .flow fuel reading).bind fun (key, reading) ↦ more key (value reading)
    let next (reading : Reading) : Option (List Node × Reading) :=
      match reading.peek with
      | some .flowMappingEnd => some ([], reading.advance)
      | some .key => marked reading.advance
      | some .value => more .nil (value reading)
      | _ =>
        (readNode .flow fuel reading).bind fun (key, reading) ↦
          more key (some (.nil, reading))
    match reading.peek with
    | some .flowMappingEnd => some ([], reading.advance)
    | some .flowEntry => next (if first then reading else reading.advance)
    | _ => if first then next reading else none

end

/-! ## Documents -/

/-- The value of a document at the front of the tokens, and the tokens behind it. After its mark a
document may be empty. -/
def readRoot (marked : Bool) (tokens : List Token) : Option (Node × List Token) :=
  let nothing : Bool :=
    match tokens with
    | [] => true
    | .directive :: _ => true
    | .documentStart :: _ => true
    | .documentEnd :: _ => true
    | _ => false
  if marked && nothing then some (.nil, tokens)
  else
    (readNode .item (4 * tokens.length + 4) ⟨tokens, [], []⟩).map fun (node, reading) ↦
      (node, reading.tokens)

/-- The value of the only document; a text without tokens has an empty mapping. -/
def readStream (tokens : List Token) : Option Node :=
  let root :=
    match tokens.dropWhile (· == Token.directive) with
    | .documentStart :: rest => readRoot true rest
    | _ => if tokens.head? = some Token.directive then none else readRoot false tokens
  if tokens.isEmpty then some (.table [])
  else
    root.bind fun (node, rest) ↦
      if rest.all (· == Token.documentEnd) then some node else none

end MonitorCore.Yaml

import MonitorCore.Settings.Yaml.Tag

/-!
# Tokens

What a YAML text consists of once indentation and blanks are gone. The collections that a text opens
and closes by indentation have tokens of their own, and so have keys, although nothing in the text
stands for them.
-/

namespace MonitorCore.Yaml

/-- A token. -/
inductive Token where
  | directive
  | documentStart
  | documentEnd
  /-- A list by indentation begins. -/
  | blockSequence
  /-- A mapping by indentation begins. -/
  | blockMapping
  /-- A list or mapping by indentation is over. -/
  | blockEnd
  | blockEntry
  | flowSequence
  | flowSequenceEnd
  | flowMapping
  | flowMappingEnd
  | flowEntry
  /-- A key follows. -/
  | key
  /-- The value of a key follows. -/
  | value
  /-- The value at an anchor stands here once more. -/
  | alias (name : String)
  | anchor (name : String)
  | tag (tag : Tag)
  /-- A text; the spelling of a plain one says what it is. -/
  | scalar (plain : Bool) (text : String)
  deriving DecidableEq, Repr

end MonitorCore.Yaml

/-!
# YAML tokens

* `ScalarStyle` — how a scalar is written.
* `Tag` — the name of a type, written in front of a value.
* `Token` — the parts that a text is cut into.
-/

set_option autoImplicit false

namespace PresetPipeline.Yaml

inductive ScalarStyle where
  | plain
  | singleQuoted
  | doubleQuoted
  | literal
  | folded
  deriving DecidableEq, Repr

/-- A tag: its characters. One is missing where the bytes that are written for it encode none. -/
abbrev Tag := List (Option Char)

/-- A tag that is written in characters. -/
def Tag.ofString (s : String) : Tag := s.toList.map some

inductive Token where
  | streamEnd
  | versionDirective (major minor : Nat)
  | tagDirective (handle : String) (expansion : Tag)
  | documentStart
  | documentEnd
  | blockSequenceStart
  | blockMappingStart
  | blockEnd
  | flowSequenceStart
  | flowSequenceEnd
  | flowMappingStart
  | flowMappingEnd
  | blockEntry
  | flowEntry
  | key
  | value
  | anchor (name : String)
  | alias (name : String)
  /-- A tag without a handle is complete. -/
  | tag (handle : Option String) (suffix : Tag)
  | scalar (text : String) (style : ScalarStyle)
  deriving DecidableEq, Repr

end PresetPipeline.Yaml

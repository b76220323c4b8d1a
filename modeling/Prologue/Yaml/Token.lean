import Prologue.Yaml.Cursor

/-! The tokens of a YAML text. -/

namespace Prologue.Yaml

inductive ScalarStyle where
  | plain
  | singleQuoted
  | doubleQuoted
  | literal
  | folded
deriving DecidableEq, Repr

/-- The bytes of a tag. They may be written one by one, so they need not be the encoding of a text. -/
structure Tag where
  bytes : List UInt8
deriving DecidableEq, Repr

def Tag.ofString (text : String) : Tag := ⟨text.toUTF8.data.toList⟩

def Tag.append (first second : Tag) : Tag := ⟨first.bytes ++ second.bytes⟩

inductive Token where
  | streamStart
  | streamEnd
  | version (major minor : Nat)
  | tagDirective (handle : String) (stem : Tag)
  | documentStart
  | documentEnd
  | blockSequenceStart
  | blockMappingStart
  | blockEnd
  | flowSequenceStart
  | flowSequenceEnd
  | flowMappingStart
  | flowMappingEnd
  | blockEntry
  | flowEntry
  | key
  | value
  | anchor (name : String)
  /-- A second mention of an anchored value. -/
  | reference (anchor : String)
  /-- A tag with the handle that stands for its first part. -/
  | tag (handle : String) (suffix : Tag)
  | scalar (text : String) (style : ScalarStyle)
deriving DecidableEq, Repr

/-- A token with the places of its first character and after its last. -/
structure Located where
  token : Token
  start : Mark
  stop : Mark
deriving DecidableEq, Repr

end Prologue.Yaml

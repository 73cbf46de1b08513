/-!
# Tokens of YAML texts
-/

namespace Fitout.Yaml

/-- How a scalar is written. -/
inductive Style
  | plain
  | singleQuoted
  | doubleQuoted
  | literal
  | folded
  deriving DecidableEq, Repr

/-- The bytes of a tag. They need not be text, since a tag may escape any bytes of the length of a
character. -/
abbrev TagBytes :=
  List UInt8

/-- A tag as written: a handle, which a directive explains, and a suffix. -/
structure TagRef where
  /-- The handle; empty when the suffix is the whole tag. -/
  handle : List Char
  /-- What follows the handle. -/
  suffix : TagBytes
  deriving DecidableEq, Repr

/-- A token of a YAML text. -/
inductive Token
  | streamEnd
  | versionDirective (major minor : Nat)
  | tagDirective (handle : List Char) (stem : TagBytes)
  | documentStart
  | documentEnd
  | blockSequenceStart
  | blockMappingStart
  | blockEnd
  | flowSequenceStart
  | flowSequenceEnd
  | flowMappingStart
  | flowMappingEnd
  | blockEntry
  | flowEntry
  | key
  | value
  | reference (name : List Char)
  | anchor (name : List Char)
  | tag (t : TagRef)
  | scalar (style : Style) (text : List Char)
  deriving DecidableEq, Repr

end Fitout.Yaml

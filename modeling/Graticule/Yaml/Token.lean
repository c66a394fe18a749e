/-!
# YAML tokens

The words and marks of a YAML text.  Marks for the start and the end of blocks, which a text shows
by its indentation only, are tokens of their own.
-/

namespace Graticule.Yaml

inductive Style where
  | plain
  | quoted
  | literal
  | folded
deriving BEq, DecidableEq, Repr

/-- A handle that stands for the start of a tag, and the rest of the tag. -/
structure TagName where
  handle : List Char
  suffix : List Char
deriving BEq, Repr

inductive Token where
  /-- The version of the language. -/
  | version (major minor : Nat)
  /-- What a handle stands for. -/
  | handle (name start : List Char)
  | documentStart
  | documentEnd
  | sequenceStart
  | mappingStart
  | blockEnd
  | flowSequenceStart
  | flowSequenceEnd
  | flowMappingStart
  | flowMappingEnd
  | entry
  | flowEntry
  | key
  | value
  /-- The node that has the name. -/
  | reference (name : String)
  /-- The next node has the name. -/
  | anchor (name : String)
  /-- The next node has the tag. -/
  | tag (name : TagName)
  | scalar (text : String) (style : Style)
deriving BEq, Repr

end Graticule.Yaml

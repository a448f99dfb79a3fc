import MaskedInput.Yaml.Tag

/-!
# Tokens of a YAML text

A text is first cut into tokens.  Besides what is written in the text, tokens mark where a block
starts and ends, which only the indentation shows, and where the key of a mapping starts, which
only the colon behind it shows.
-/

namespace MaskedInput.Yaml

inductive Style where
  | plain
  | quoted
  | literal
  | folded
  deriving DecidableEq, Repr, Inhabited

/-- A piece of a YAML text. -/
inductive Token where
  | version
  | tagHandle (handle : List Char) (meaning : Octets)
  | documentStart
  | documentEnd
  | blockSequenceStart
  | blockMappingStart
  /-- Ends a sequence or mapping that is shown by indentation. -/
  | blockEnd
  | flowSequenceStart
  | flowSequenceEnd
  | flowMappingStart
  | flowMappingEnd
  | item
  | comma
  | key
  | value
  | alias (name : List Char)
  | anchor (name : List Char)
  | tag (tag : Tag)
  | scalar (style : Style) (text : List Char)
  deriving DecidableEq, Repr

end MaskedInput.Yaml

import Teller.Yaml.Problem

/-!
# The tokens of a YAML text

    port: 80        blockMappingStart  key  scalar  value  scalar  blockEnd
    {a: b}          flowMappingStart   key  scalar  value  scalar  flowMappingEnd

Indentation becomes tokens: a block collection has a start and an end of its own.
-/

namespace Teller.Yaml

/-- How a scalar is written. Only a plain one can be anything but a text. -/
inductive Style where
  | plain
  | quoted
  | literal
  | folded
deriving DecidableEq

/-- What a text consists of once its indentation is told. -/
inductive Token where
  | streamEnd
  | versionDirective (major minor : Nat)
  | tagDirective (handle head : String)
  | documentStart
  | documentEnd
  | blockSequenceStart
  | blockMappingStart
  | blockEnd
  | flowSequenceStart
  | flowSequenceEnd
  | flowMappingStart
  | flowMappingEnd
  | blockEntry
  | flowEntry
  | key
  | value
  | alias (name : String)
  | anchor (name : String)
  | tag (handle suffix : String)
  | scalar (style : Style) (text : String)
deriving DecidableEq

/-- A token and where it starts and ends in the text. -/
structure Lexeme where
  token : Token
  start : Mark
  stop : Mark

end Teller.Yaml

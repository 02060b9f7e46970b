-- The tokens of a YAML text.
import CatalogGate.Yaml.Glyph

namespace CatalogGate.Yaml

/-- How a scalar is written. -/
inductive Style where
  | plain
  | singleQuoted
  | doubleQuoted
  | literal
  | folded
deriving Repr, DecidableEq

inductive Token.Kind where
  | version (major minor : Nat)
  | tagPrefix (handle expansion : String)
  | documentStart
  | documentEnd
  | streamEnd
  | blockSequence
  | blockMapping
  | blockEnd
  | openSequence
  | closeSequence
  | openMapping
  | closeMapping
  | dash
  | comma
  | key
  | value
  | aliasOf (name : String)
  | anchor (name : String)
  /-- The whole of a tag stands in `suffix` when the handle is empty. -/
  | tag (handle suffix : String)
  | scalar (text : String) (style : Style)
deriving Repr, DecidableEq

structure Token where
  kind : Token.Kind
  start : Mark
  stop : Mark
deriving Repr, DecidableEq

end CatalogGate.Yaml

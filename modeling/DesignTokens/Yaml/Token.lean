/-!
# Tokens of YAML

What a document consists of: indicators, properties of nodes, and scalars. The tokens of blocks come
from the indentation.
-/

set_option autoImplicit false

namespace DesignTokens.Yaml

/-- A token. Scalars carry their text and whether they are plain. -/
inductive Token where
  | versionDirective (major minor : Nat)
  | tagDirective (handle start : List Char)
  | documentStart
  | documentEnd
  | blockSequenceStart
  | blockMappingStart
  | blockEnd
  | flowSequenceStart
  | flowSequenceEnd
  | flowMappingStart
  | flowMappingEnd
  | blockEntry
  | flowEntry
  | key
  | value
  | reference (name : List Char)
  | anchor (name : List Char)
  | tag (handle suffix : List Char)
  | scalar (text : List Char) (plain : Bool)
deriving DecidableEq, Repr

end DesignTokens.Yaml

import DesignTokens.Naming
import DesignTokens.Value.Basic

/-!
# Leaves of a token document

An `Entry` is what an object of the document says when it has a `type`, a `value` and perhaps a
`description`; a `TokenValue` is an entry under a name.
-/

set_option autoImplicit false

namespace DesignTokens

/-- A leaf: its declared type, its raw value and its description. -/
structure Entry where
  kind : String
  value : Value
  description : Option String
deriving DecidableEq, Repr

namespace Entry

/-- Reads an object as a leaf. The type must be a string and the value present, whatever it is; the
description is absent, null or a string. Further members do not matter. -/
def decode? (node : Value) : Option Entry := do
  let members ← node.members?
  let kind ← (← members.lookup "type").string?
  let value ← members.lookup "value"
  match members.lookup "description" with
  | none | some .null => return ⟨kind, value, none⟩
  | some (.string description) => return ⟨kind, value, some description⟩
  -- with a description of another kind the object is a group
  | some _ => none

/-- The leaf as an object. -/
def toValue (entry : Entry) : Value :=
  let described : Members :=
    match entry.description with
    | some description => [("description", .string description)]
    | none => []
  .object (described ++ [("type", .string entry.kind), ("value", entry.value)])

end Entry

/-- A named leaf. -/
structure TokenValue where
  name : String
  entry : Entry
deriving DecidableEq, Repr

namespace TokenValue

/-- The named leaf as an object. -/
def toValue (token : TokenValue) : Value :=
  .object [("entry", token.entry.toValue), ("name", .string token.name)]

end TokenValue

instance : Named TokenValue where
  name := TokenValue.name
  rename token name := { token with name }

end DesignTokens

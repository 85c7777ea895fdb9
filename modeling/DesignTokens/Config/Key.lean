import DesignTokens.Failure.Problem
import DesignTokens.Value.Basic

/-!
# Keys of a configuration

Generators read the mappings of a configuration through a `Key`, which carries the text that tells
the user what to add when the key is required and missing. A `Shape` says what the value under a
key has to be.
-/

set_option autoImplicit false

namespace DesignTokens

/-- A configuration key, with the guidance for the case that it is required and missing. -/
structure Key where
  name : String
  guidance : String
deriving DecidableEq, Repr

/-- How a value is read: as data of a type, or not at all. -/
abbrev Shape (α : Type) := Value → Option α

namespace Shape

/-- A string. -/
def string : Shape String := Value.string?

/-- A Boolean. -/
def bool : Shape Bool := Value.bool?

/-- A list of strings. -/
def strings : Shape (List String) := Value.strings?

/-- A mapping. -/
def mapping : Shape Members := Value.members?

end Shape

namespace Key

/-- A key with its guidance line by line. -/
def withGuidance (name : String) (lines : List String) : Key :=
  ⟨name, "\n".intercalate lines⟩

/-- The key `process`, under which the options of the stages stand. -/
def process : Key := ⟨"process", ""⟩

/-- The key `addPrefix`. -/
def addPrefix : Key := ⟨"addPrefix", ""⟩

/-- The key `addSuffix`. -/
def addSuffix : Key := ⟨"addSuffix", ""⟩

/-- The key `sortBy`. -/
def sortBy : Key := ⟨"sortBy", ""⟩

/-- The key `keysAsNamePrefix`. -/
def keysAsNamePrefix : Key := ⟨"keysAsNamePrefix", ""⟩

/-- The key `params`. -/
def params : Key := ⟨"params", ""⟩

/-- The value under the key, if there is a mapping that holds one. -/
def raw? (key : Key) (mapping : Option Value) : Option Value :=
  mapping.bind (·.get? key.name)

/-- The data under the key, if it is there and has the shape. -/
def optional? {α : Type} (key : Key) (shape : Shape α) (mapping : Option Value) : Option α :=
  (key.raw? mapping).bind shape

/-- The data under a key that must be there and have the shape. -/
def required {α : Type} (key : Key) (shape : Shape α) (mapping : Option Value) :
    Except Problem α :=
  match key.optional? shape mapping with
  | some data => .ok data
  -- a value of another shape counts as missing
  | none => .error (.missingRequiredKey key.name key.guidance)

end Key

end DesignTokens

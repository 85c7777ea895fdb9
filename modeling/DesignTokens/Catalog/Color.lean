import DesignTokens.Stage.Rgba
import DesignTokens.Stage.Sort

/-!
# Colours with two appearances

A colour has a light appearance, called *any*, and perhaps a dark one. `Color.combine` pairs light
and dark token values by name.
-/

set_option autoImplicit false

namespace DesignTokens

/-- A colour: its name and the objects of its appearances, which start as `hex` alone. -/
structure Color where
  name : String
  any : Members
  dark : Option Members
deriving DecidableEq, Repr

instance : Named Color where
  name := Color.name
  rename color name := { color with name }

namespace Color

/-- The object of an appearance. -/
def appearance (hex : String) : Members :=
  [("hex", .string hex)]

/-- The colour of a light leaf and a dark leaf of the same name. The dark one counts only if it is a
string that differs from the light one. -/
def ofEntries (name : String) (any : Entry) (dark : Option Entry) : Except Problem Color :=
  match any.value.string? with
  | none => .error (.missingColorValue name)
  | some hex =>
    .ok {
      name
      any := appearance hex
      dark := ((dark.bind (·.value.string?)).filter (· ≠ hex)).map appearance }

/-- The colours of the light values in order, and the dark values that are left. The first light
value of a name takes the dark value of that name. -/
def pair (dark : List (String × Entry)) :
    List TokenValue → Except Problem (List Color × List (String × Entry))
  | [] => .ok ([], dark)
  | token :: tokens => do
    let color ← ofEntries token.name token.entry (dark.lookup token.name)
    -- a dark value is used up by the first light one of its name
    let (colors, rest) ← pair (Keyed.erase token.name dark) tokens
    return (color :: colors, rest)

/-- The colours of light and dark values, ordered by name. Of several dark values of one name the
last counts; a dark value without a light one is a colour of its own. -/
def combine (any dark : List TokenValue) : Except Problem (List Color) := do
  let table := Keyed.ofList (dark.map fun token => (token.name, token.entry))
  let (paired, rest) ← pair table any
  -- a dark value that is left over becomes the light appearance of a colour
  let single ← rest.mapM fun (name, entry) => ofEntries name entry none
  return Stage.sortBy Stage.nameLess (paired ++ single)

/-- The stage that adds the channels to both appearances of every colour. -/
def hexToRgba : Stage Color := fun _ colors =>
  colors.map fun color =>
    { color with any := Rgba.enrich color.any, dark := color.dark.map Rgba.enrich }

/-- The texts of a colour's appearances that cannot be split into channels, the light one first. -/
def malformedHexes (color : Color) : List String :=
  (Rgba.malformedHex? color.any).toList ++ (color.dark.bind Rgba.malformedHex?).toList

/-- The stages of a colour catalog. -/
def stages : List (Stage Color) :=
  [Stage.addPrefix, Stage.addSuffix, hexToRgba]

/-- The colour as an object. -/
def toValue (color : Color) : Value :=
  .object [("any", .object color.any),
    ("dark", .ofOption (color.dark.map .object)), ("name", .string color.name)]

/-- Fails for an appearance without channels. -/
def checkAppearance (color : Color) (appearance : Members) : Except Problem Unit :=
  if (appearance.lookup "rgba").isSome then .ok ()
  else
    -- every appearance is made with a text, so the empty one is never told
    .error (.malformedColorValue color.name
      (((appearance.lookup "hex").bind Value.string?).getD ""))

/-- Fails for the first appearance of a colour, the light one before the dark one, that has no
channels. -/
def checkDecoded (color : Color) : Except Problem Unit := do
  color.checkAppearance color.any
  if let some dark := color.dark then color.checkAppearance dark

end Color

end DesignTokens

import DesignTokens.Catalog.Color
import DesignTokens.Generate.Manifest

/-!
# Colour catalogs

An entry of the section `colors` names a group of the token document for light values and perhaps
another for dark values. Every colour that `Color.combine` makes of them gets a set in the catalog.
All values are resolved before the first file is written; a colour without channels ends the entry
where its manifest is due.
-/

set_option autoImplicit false

namespace DesignTokens.ColorSet

variable [Template.Engine]

/-- The key of the block that names the light values. -/
def inputKey : Key :=
  .withGuidance "input"
    ["You need to provide an input for the color catalog.",
      "",
      "Add an 'input' block pointing into the design token, for example:",
      "",
      "  xcassets:",
      "    colors:",
      "      - output: Generated/Colors.xcassets",
      "        input:",
      "          keys: [light, colors]",
      "          keysAsNamePrefix: true",
      "        adaptive:",
      "          keys: [dark, colors]"]

/-- The key of the path of keys inside a block. -/
def keysKey : Key :=
  .withGuidance "keys"
    ["You need to provide the key path of the colors inside the design token.",
      "",
      "Add 'keys' to the input (and adaptive) block, for example:",
      "",
      "  xcassets:",
      "    colors:",
      "      - output: Generated/Colors.xcassets",
      "        input:",
      "          keys: [light, colors]",
      "        adaptive:",
      "          keys: [dark, colors]"]

/-- The key of the block that names the dark values. -/
def adaptiveKey : Key := ⟨"adaptive", ""⟩

/-- What an entry asks for. -/
structure Spec where
  /-- The directory of the catalog. -/
  output : String
  any : List TokenValue
  dark : List TokenValue
deriving DecidableEq, Repr

/-- The values that a block names. -/
def resolve (token : DesignToken) (block : Value) (usePrefix : Bool) :
    Except Problem (List TokenValue) := do
  token.values (← keysKey.required Shape.strings (some block)) usePrefix

/-- Whether the names of a block are put together from keys. -/
def usesPrefix (block : Value) (otherwise : Bool) : Bool :=
  (Key.keysAsNamePrefix.optional? Shape.bool (some block)).getD otherwise

/-- Reads an entry and resolves its values. The block of dark values follows the other one in how
names are put together, unless it says so itself. -/
def Spec.read (token : DesignToken) (entry : Value) : Except Problem Spec := do
  let output ← Manifest.outputKey.required Shape.string (some entry)
  let input := Value.object (← inputKey.required Shape.mapping (some entry))
  let usePrefix := usesPrefix input false
  let any ← resolve token input usePrefix
  let dark ←
    match adaptiveKey.optional? Shape.mapping (some entry) with
    | some members =>
      let block := Value.object members
      resolve token block (usesPrefix block usePrefix)
    | none => pure []
  return ⟨output, any, dark⟩

/-- The name of the folder of a colour. -/
def folder (color : Color) : String :=
  color.name ++ ".colorset"

/-- What the template of a colour sees. -/
def context (params : Value) (color : Color) : Members :=
  [("color", color.toValue), ("params", params)]

/-- Writes the manifest of a colour. -/
def writeColor (catalog : String) (params : Value) (color : Color) : Action Unit := do
  -- a colour without channels fails here, when the sets in front of it are written
  Action.ofExcept color.checkDecoded
  (TemplateSource.bundled .color).renderTo (context params color)
    (Manifest.pathIn (Path.join catalog (folder color)))

/-- Writes a catalog. -/
def writeCatalog (catalog : String) (params : Value) (colors : List Color) : Action Unit := do
  Manifest.writeRoot catalog
  colors.forM (writeColor catalog params)

/-- Logs the texts of colours that cannot be split into channels. -/
def warnMalformed (colors : List Color) : Action Unit :=
  (colors.flatMap Color.malformedHexes).forM fun hex =>
    Action.log .warning ("Ignoring malformed hex color '" ++ hex ++ "'")

/-- Generates the catalog of an entry. -/
def generate (project : Project) (entry : Value) : Action Unit := do
  let spec ← Action.ofExcept (Spec.read project.token entry)
  Action.log .debug ("Resolved " ++ toString spec.any.length ++ " any and " ++
    toString spec.dark.length ++ " dark color values")
  let colors ← Action.ofExcept (Color.combine spec.any spec.dark)
  -- renaming leaves hex texts alone, so they can be checked before the stages run
  warnMalformed colors
  let catalog := Path.join project.directory spec.output
  writeCatalog catalog (Manifest.paramsOf entry) (Stage.run Color.stages (some entry) colors)
  Action.log .info ("Generated " ++ toString colors.length ++ " colors in " ++ catalog)

/-- The generator of the section `colors`. -/
def generator : Generator :=
  .ofEntries "colors" generate

end DesignTokens.ColorSet

import DesignTokens.Generate.Basic
import DesignTokens.Template.Source

/-!
# Manifests of asset catalogs

An asset catalog is a directory with a manifest at its root and one in each of its sets.
-/

set_option autoImplicit false

namespace DesignTokens.Manifest

variable [Template.Engine]

/-- The name of every manifest. -/
def fileName : String := "Contents.json"

/-- The path of the manifest of a directory. -/
def pathIn (directory : String) : String :=
  Path.join directory fileName

/-- Writes the manifest at the root of a catalog. -/
def writeRoot (catalog : String) : Action Unit :=
  (TemplateSource.bundled .info).renderTo [] (pathIn catalog)

/-- The parameters of an entry for its templates: what it holds under `params`, or an empty
mapping. -/
def paramsOf (entry : Value) : Value :=
  (entry.get? Key.params.name).getD (.object [])

/-- The key of the directory of a catalog. -/
def outputKey : Key :=
  .withGuidance "output"
    ["You need to provide an output path for the asset catalog.",
      "",
      "Add 'output' to the catalog entry in your configuration, for example:",
      "",
      "  xcassets:",
      "    colors:",
      "      - output: Generated/Colors.xcassets",
      "        input:",
      "          keys: [light, colors]",
      "          keysAsNamePrefix: true",
      "        adaptive:",
      "          keys: [dark, colors]",
      "",
      "Paths are relative to the directory tokengen runs in."]

end DesignTokens.Manifest

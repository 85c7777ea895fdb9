import DesignTokens.Config.Document
import DesignTokens.Generate.ColorSet
import DesignTokens.Generate.ImageSet
import DesignTokens.Generate.TemplatedFile

/-!
# Sections

The sections of a configuration are generated in the order of their names. A section that no
generator is known for is skipped; inside an asset catalog it is a problem. The first failure ends
the run.
-/

set_option autoImplicit false

namespace DesignTokens

variable [Template.Engine]

namespace AssetCatalog

/-- The generators inside the section `xcassets`, by the names of their sections. -/
def generators : List (String × Generator) :=
  [("colors", ColorSet.generator), ("images", ImageSet.generator)]

/-- Generates a section of an asset catalog. -/
def generateSection (project : Project) : String × Value → Action Unit
  | (name, content) => do
    match generators.lookup name with
    | none => throw (.ofProblem (.invalidConfigEntry name))
    | some generator =>
      -- what the section holds is checked outside of the context
      let generate ← Action.ofExcept (generator project content)
      Action.within ("Failed to generate xcassets '" ++ name ++ "'") generate

/-- The generator of the section `xcassets`. -/
def generator : Generator := fun project content =>
  match content with
  | .object sections => .ok (sections.forM (generateSection project))
  | _ => .error (.invalidConfigEntry "xcassets")

end AssetCatalog

namespace Config

/-- The generators of sections, by the names of their sections. -/
def generators : List (String × Generator) :=
  [("xcassets", AssetCatalog.generator), ("files", TemplatedFile.generator)]

/-- Generates a section of a configuration. -/
def generateSection (project : Project) (path : String) : String × Value → Action Unit
  | (name, content) => do
    match generators.lookup name with
    | none =>
      Action.log .warning ("Couldn't find a parser for key \"" ++ name ++ "\", skipping")
    | some generator =>
      Action.log .info ("Running '" ++ name ++ "' from " ++ path)
      -- what the section holds is checked under a context of its own
      let generate ← Action.within ("Failed to configure section '" ++ name ++ "'")
        (Action.ofExcept (generator project content))
      Action.within ("Failed to generate section '" ++ name ++ "'") generate

/-- Generates all sections of a configuration. -/
def generate (project : Project) (config : Config) : Action Unit :=
  config.sections.forM (generateSection project config.path)

/-- Generates configurations one after the other. -/
def generateAll (project : Project) (configs : List Config) : Action Unit :=
  configs.forM (generate project)

end Config

end DesignTokens

import DesignTokens.Catalog.Image
import DesignTokens.Generate.Manifest

/-!
# Image catalogs

An entry of the section `images` names a directory of files and perhaps one of dark files. Every
image gets a set with copies of its files and a manifest.
-/

set_option autoImplicit false

namespace DesignTokens.ImageSet

variable [Template.Engine]

/-- The key of the directory of the files. -/
def inputKey : Key :=
  .withGuidance "input"
    ["You need to provide an input directory for the image catalog.",
      "",
      "Add 'input' to the catalog entry in your configuration, for example:",
      "",
      "  xcassets:",
      "    images:",
      "      - output: Generated/Icons.xcassets",
      "        input: Images/icons",
      "        properties:",
      "          preserves-vector-representation: true",
      "          template-rendering-intent: template",
      "",
      "Paths are relative to the directory tokengen runs in."]

/-- The key of the directory of the dark files. -/
def adaptiveKey : Key := ⟨"adaptive", ""⟩

/-- The key of the properties of all images. -/
def propertiesKey : Key := ⟨"properties", ""⟩

/-- The directory of the dark files: a path, or a mapping with one under `input`. -/
def darkDirectory? (entry : Value) : Except Problem (Option String) :=
  match adaptiveKey.raw? (some entry) with
  | none | some .null => .ok none
  | some (.string directory) => .ok (some directory)
  -- a mapping is read by the key that the entry itself has
  | some (.object members) =>
    (inputKey.required Shape.string (some (.object members))).map some
  | some _ => .error (.invalidConfigEntry adaptiveKey.name)

/-- What the template of an image sees. -/
def context (params : Value) (properties : Members) (image : Image) : Members :=
  [("darkFile", .ofOption (image.darkFile.map .string)), ("file", .string image.file),
    ("params", params), ("properties", .object properties)]

/-- Copies the files of an image into its set and writes the manifest. -/
def writeImage (catalog : String) (params : Value) (properties : Members) (image : Image) :
    Action Unit := do
  let folder := Path.join catalog image.imageset
  -- the files come first, so a copy that fails leaves a set without a manifest
  Action.replaceFile image.any (Path.join folder image.file)
  match image.dark, image.darkFile with
  | some dark, some name => Action.replaceFile dark (Path.join folder name)
  | _, _ => pure ()
  (TemplateSource.bundled .image).renderTo (context params properties image)
    (Manifest.pathIn folder)

/-- Writes a catalog. -/
def writeCatalog (catalog : String) (params : Value) (properties : Members)
    (images : List Image) : Action Unit := do
  Manifest.writeRoot catalog
  images.forM (writeImage catalog params properties)

/-- Generates the catalog of an entry. -/
def generate (project : Project) (entry : Value) : Action Unit := do
  let output ← Action.ofExcept (Manifest.outputKey.required Shape.string (some entry))
  let input ← Action.ofExcept (inputKey.required Shape.string (some entry))
  let any ← Action.listFiles (Path.join project.directory input)
  -- both directories are listed before anything is written
  let dark ←
    match ← Action.ofExcept (darkDirectory? entry) with
    | some directory => Action.listFiles (Path.join project.directory directory)
    | none => pure []
  Action.log .debug ("Found " ++ toString any.length ++ " images and " ++ toString dark.length ++
    " dark images")
  let images := Stage.run Image.stages (some entry) (Image.combine any dark)
  let catalog := Path.join project.directory output
  let properties := (propertiesKey.optional? Shape.mapping (some entry)).getD []
  writeCatalog catalog (Manifest.paramsOf entry) properties images
  Action.log .info ("Generated " ++ toString images.length ++ " images in " ++ catalog)

/-- The generator of the section `images`. -/
def generator : Generator :=
  .ofEntries "images" generate

end DesignTokens.ImageSet

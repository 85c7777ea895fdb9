import DesignTokens.Generate.Run
import DesignTokens.Proofs.Files.Listing
import DesignTokens.Template.Calls

/-!
# What a run uses

`Run.uses` lists the files that a run reads, the directories that it lists and the files that it
writes, by the paths that the documents name. It follows the generators: an entry with a problem
uses nothing, and the images of an entry are those that its directories held before the run.
`Run.functions` lists the functions that the templates among these files call.

`Separate tree uses` says that what is written is apart from what is read: no written file is read,
and none lies directly inside a directory that is listed. Two paths may lead to one file, so this
is about the places that the paths lead to in `tree`.
-/

set_option autoImplicit false

namespace DesignTokens

open DesignTokens.FileTree

/-! ### Uses -/

/-- A path that a run uses. -/
inductive FileUse where
  /-- The file is read. -/
  | reads (path : String)
  /-- The names in the directory are read, and the visible files in it are copied. -/
  | lists (path : String)
  /-- The file is written. -/
  | writes (path : String)
deriving DecidableEq, Repr

namespace FileUse

/-- The uses of a computation that a problem can end: there are none then. -/
def ofExcept : Except Problem (List FileUse) → List FileUse
  | .ok uses => uses
  | .error _ => []

/-- The functions that are called by a template that is read. -/
def functions (tree : FileTree) : FileUse → List String
  | .reads path =>
    match tree.readText path with
    | .ok text => Template.functionsOf text
    | .error _ => []
  | .lists _ | .writes _ => []

/-- What is written at a location leaves the use alone. -/
def Spares (tree : FileTree) (location : Location) : FileUse → Prop
  | .reads path => tree.fileAt? path ≠ some location
  | .lists path => tree.directoryAt? path ≠ some location.dropLast
  | .writes _ => True

end FileUse

instance (tree : FileTree) (location : Location) :
    (use : FileUse) → Decidable (use.Spares tree location)
  | .reads _ => inferInstanceAs (Decidable (_ ≠ _))
  | .lists _ => inferInstanceAs (Decidable (_ ≠ _))
  | .writes _ => inferInstanceAs (Decidable True)

/-- A file at the location is written. -/
def Target (tree : FileTree) (uses : List FileUse) (location : Location) : Prop :=
  ∃ path, .writes path ∈ uses ∧ tree.fileAt? path = some location

/-- Whatever is written leaves all uses alone. -/
def Separate (tree : FileTree) (uses : List FileUse) : Prop :=
  ∀ location, Target tree uses location → ∀ use ∈ uses, use.Spares tree location

/-- The locations of the files that are written. -/
def targets (tree : FileTree) (uses : List FileUse) : List Location :=
  uses.filterMap fun
    | .writes path => tree.fileAt? path
    | _ => none

/-- The list of targets holds exactly the locations that are written. -/
theorem mem_targets_iff {tree : FileTree} {uses : List FileUse} {location : Location} :
    location ∈ targets tree uses ↔ Target tree uses location := by
  rw [targets, List.mem_filterMap]
  constructor
  · rintro ⟨use, huse, hfile⟩
    cases use with
    | reads path => cases hfile
    | lists path => cases hfile
    | writes path => exact ⟨path, huse, hfile⟩
  · rintro ⟨path, hpath, hfile⟩
    exact ⟨.writes path, hpath, hfile⟩

instance (tree : FileTree) (uses : List FileUse) : Decidable (Separate tree uses) :=
  decidable_of_iff (∀ location ∈ targets tree uses, ∀ use ∈ uses, use.Spares tree location)
    (by simp only [mem_targets_iff, Separate])

/-! ### Generators -/

/-- The uses of what a section or an entry holds. -/
abbrev Uses := (project : Project) → (content : Value) → List FileUse

namespace Uses

/-- The uses of a list of mappings. -/
def ofEntries (key : String) (uses : Uses) : Uses := fun project content =>
  FileUse.ofExcept ((specList key content).map fun entries => entries.flatMap (uses project))

/-- The uses of sections, each with those of its name. -/
def ofSections (table : List (String × Uses)) (project : Project) (sections : Members) :
    List FileUse :=
  sections.flatMap fun (name, content) =>
    match table.lookup name with
    | some uses => uses project content
    | none => []

end Uses

namespace ColorSet

/-- The manifests of a catalog and its colours are written. -/
def catalogUses (catalog : String) (colors : List Color) : List FileUse :=
  .writes (Manifest.pathIn catalog) :: colors.map fun color =>
    .writes (Manifest.pathIn (Path.join catalog (folder color)))

/-- The uses of an entry. -/
def uses : Uses := fun project entry => FileUse.ofExcept do
  let spec ← Spec.read project.token entry
  let colors ← Color.combine spec.any spec.dark
  return catalogUses (Path.join project.directory spec.output)
    (Stage.run Color.stages (some entry) colors)

end ColorSet

namespace ImageSet

/-- The copies and the manifest of an image are written. -/
def imageUses (catalog : String) (image : Image) : List FileUse :=
  let folder := Path.join catalog image.imageset
  .writes (Path.join folder image.file) ::
    image.darkFile.toList.map (fun name => .writes (Path.join folder name)) ++
    [.writes (Manifest.pathIn folder)]

/-- The manifest of a catalog is written, and what belongs to its images. -/
def catalogUses (catalog : String) (images : List Image) : List FileUse :=
  .writes (Manifest.pathIn catalog) :: images.flatMap (imageUses catalog)

section
variable (before after : FileTree)

/-- The files that a directory held before a run, which it leads to after the run at the latest. -/
def filesIn (directory : String) : List String :=
  match after.directoryAt? directory with
  | some location => (before.visibleFiles location).map (Path.join directory)
  | none => []

/-- The uses of an entry. Its first directory is listed before it is read where the other one is. -/
def uses : Uses := fun project entry => FileUse.ofExcept do
  let output ← Manifest.outputKey.required Shape.string (some entry)
  let any := Path.join project.directory (← inputKey.required Shape.string (some entry))
  return .lists any :: FileUse.ofExcept do
    let dark := (← darkDirectory? entry).map (Path.join project.directory)
    let images := Image.combine (filesIn before after any)
      ((dark.map (filesIn before after)).getD [])
    return dark.toList.map .lists ++
      catalogUses (Path.join project.directory output) (Stage.run Image.stages (some entry) images)

end

end ImageSet

namespace TemplatedFile

/-- A template that is not bundled is read. -/
def templateUses (reference directory : String) : List FileUse :=
  match BundledTemplate.find? reference with
  | some _ => []
  | none => [.reads (Path.join directory reference)]

/-- The uses of an output. -/
def outputUses (directory : String) (output : Value) : List FileUse := FileUse.ofExcept do
  let template ← templateKey.required Shape.string (some output)
  let destination ← outputKey.required Shape.string (some output)
  return .writes (Path.join directory destination) :: templateUses template directory

/-- The uses of an entry. -/
def uses : Uses := fun project entry =>
  FileUse.ofExcept ((listUnder "outputs" entry).map fun outputs =>
    outputs.flatMap (outputUses project.directory))

end TemplatedFile

/-! ### Sections -/

section
variable (before after : FileTree)

namespace AssetCatalog

/-- The uses of the sections of an asset catalog. -/
def entryUses : List (String × Uses) :=
  [("colors", .ofEntries "colors" ColorSet.uses),
    ("images", .ofEntries "images" (ImageSet.uses before after))]

/-- The uses of the section `xcassets`. -/
def uses : Uses := fun project content =>
  match content with
  | .object sections => Uses.ofSections (entryUses before after) project sections
  | _ => []

end AssetCatalog

namespace Config

/-- The uses of the sections of a configuration. -/
def sectionUses : List (String × Uses) :=
  [("xcassets", AssetCatalog.uses before after), ("files", .ofEntries "files" TemplatedFile.uses)]

/-- The uses of a configuration. -/
def uses (project : Project) (config : Config) : List FileUse :=
  Uses.ofSections (sectionUses before after) project config.sections

end Config

end

namespace Run

/-- Loads the documents. -/
def load (run : Run) (directory : String) : Action (List Config × DesignToken) := do
  let configs ← run.configs.mapM fun path => Config.load (Path.join directory path)
  let token ← DesignToken.load (Path.join directory run.token)
  return (configs, token)

section
variable (run : Run) (directory : String) (world : World) (after : FileTree)

/-- The uses of the entries of a run that starts in a world and ends with a tree. -/
def entryUses : List FileUse :=
  match (run.load directory).outcome world with
  | (.ok (configs, token), _) =>
    configs.flatMap (Config.uses world.tree after ⟨token, directory⟩)
  | (.error _, _) => []

/-- The uses of a run: it reads its documents, and then its entries have their uses. -/
def uses : List FileUse :=
  (run.token :: run.configs).map (fun path => .reads (Path.join directory path)) ++
    run.entryUses directory world after

/-- The functions that the template files of a run call. -/
def functions : List String :=
  (run.entryUses directory world after).flatMap (FileUse.functions after)

end

end Run

end DesignTokens

import DesignTokens.Proofs.Generate.InTurn
import DesignTokens.Proofs.Template.Manifest

/-!
# The steps of an image catalog

`Plan` is what an entry for images names. An image copies its light file, copies its dark file and
writes its manifest (`writeImage_eq`), and a catalog is its own manifest and the sets of its images
in turn, whatever the template of a manifest does (`effect_writeCatalog`). So an entry comes down to
file operations whose texts are known (`effect_generate`).
-/

set_option autoImplicit false

namespace DesignTokens.ImageSet

open DesignTokens.Action DesignTokens.FileTree DesignTokens.Template

/-! ### One image -/

/-- The path of a file in the set of an image. -/
def setPath (catalog : String) (image : Image) (name : String) : String :=
  Path.join (Path.join catalog image.imageset) name

/-- The path of the copy of the light file. -/
def filePath (catalog : String) (image : Image) : String :=
  setPath catalog image image.file

/-- The path of the manifest of an image. -/
def manifestPath (catalog : String) (image : Image) : String :=
  setPath catalog image Manifest.fileName

/-- Copies the dark file of an image, if it has one. -/
def copyDark (catalog : String) (image : Image) : Action Unit :=
  match image.dark with
  | some dark =>
    replaceFile dark (setPath catalog image (Image.fileNameOf (image.name ++ "Dark") dark))
  | none => pure ()

/-- The steps of one image in terms of their paths: the file, its dark form, the manifest. An image
without a dark file goes the same way with nothing to copy, so no later proof has to tell the two
apart. -/
theorem writeImage_eq [Engine] (catalog : String) (params : Value) (properties : Members)
    (image : Image) :
    writeImage catalog params properties image = (do
      replaceFile image.any (filePath catalog image)
      copyDark catalog image
      (TemplateSource.bundled .image).renderTo (context params properties image)
        (manifestPath catalog image)) := by
  unfold writeImage copyDark Image.darkFile
  cases image.dark with
  | none =>
    dsimp only [Option.map]
    rw [pure_bind]
    rfl
  | some source => rfl

/-! ### Entries -/

/-- The directories that an entry names: that of the catalog, that of the light files, and perhaps
one of dark files. -/
structure Plan where
  catalog : String
  directory : String
  dark : Option String
deriving DecidableEq, Repr

namespace Plan

/-- Reads the keys of an entry. -/
def read (project : Project) (entry : Value) : Except Problem Plan := do
  let output ← Manifest.outputKey.required Shape.string (some entry)
  let input ← inputKey.required Shape.string (some entry)
  let adaptive ← darkDirectory? entry
  return ⟨Path.join project.directory output, Path.join project.directory input,
    adaptive.map (Path.join project.directory)⟩

section
variable (plan : Plan) (tree : FileTree)

/-- The light files that a tree holds. -/
def files : List String :=
  filesIn tree tree plan.directory

/-- The dark files that a tree holds. -/
def darkFiles : List String :=
  (plan.dark.map (filesIn tree tree)).getD []

/-- The images of the files that a tree holds. -/
def images (entry : Value) : List Image :=
  Stage.run Image.stages (some entry) (Image.combine (plan.files tree) (plan.darkFiles tree))

end

end Plan

/-- The properties of all images of an entry. -/
def propertiesOf (entry : Value) : Members :=
  (propertiesKey.optional? Shape.mapping (some entry)).getD []

/-- The steps of a successful entry: its files, and the catalog of what the stages make of them. -/
theorem generate_steps [Engine] {project : Project} {entry : Value} {world world' : World}
    (h : outcome (generate project entry) world = (.ok (), world')) :
    ∃ plan start finish, Plan.read project entry = .ok plan ∧ start.tree = world.tree ∧
      outcome (writeCatalog plan.catalog (Manifest.paramsOf entry) (propertiesOf entry)
        (plan.images world.tree entry)) start = (.ok (), finish) ∧
      world'.tree = finish.tree := by
  obtain ⟨output, input, adaptive, houtput, hinput, hadaptive, -, hlisted⟩ := generate_spec h
  have hplan : Plan.read project entry = .ok ⟨Path.join project.directory output,
      Path.join project.directory input, adaptive.map (Path.join project.directory)⟩ := by
    rw [Plan.read, houtput, hinput, hadaptive]
    rfl
  rw [generateListed] at hlisted
  obtain ⟨⟨⟩, start, hlog, hlogged⟩ := outcome_bind_ok_iff.1 hlisted
  have hstart : start.tree = world.tree := by
    rw [outcome_log] at hlog
    exact congrArg (fun result => result.2.tree) hlog.symm
  obtain ⟨⟨⟩, finish, hwrite, hdone⟩ := outcome_bind_ok_iff.1 hlogged
  have hfinish : world'.tree = finish.tree := by
    rw [outcome_log] at hdone
    exact congrArg (fun result => result.2.tree) hdone.symm
  exact ⟨_, start, finish, hplan, hstart, hwrite, hfinish⟩

/-! ### Effects -/

/-- Copies the files of an image and writes its manifest as the text that it is. -/
def writeSet (catalog : String) (properties : Members) (image : Image) : Action Unit := do
  replaceFile image.any (filePath catalog image)
  copyDark catalog image
  writeText (manifestPath catalog image) (manifest image.file image.darkFile properties)

/-- Copying the dark file does not look at what was reported. -/
theorem ignoresLog_copyDark (catalog : String) (image : Image) (world : World) :
    IgnoresLog world (copyDark catalog image) := by
  unfold copyDark
  split
  · exact ignoresLog_replaceFile _ _ world
  · exact fun _ => rfl

/-- Nor does what follows it, even though the copy itself may report a missing file. -/
theorem ignoresLog_copyDark_bind (catalog : String) (image : Image) {next : Action Unit}
    (h : ∀ world, IgnoresLog world next) (world : World) :
    IgnoresLog world (copyDark catalog image >>= fun _ => next) :=
  (ignoresLog_copyDark catalog image world).bind fun _ shaded _ => h shaded

section
variable [Engine] (catalog : String) (params : Value) (properties : Members) (image : Image)

/-- What was reported before has no influence on the manifest. -/
theorem ignoresLog_renderManifest (world : World) :
    IgnoresLog world ((TemplateSource.bundled .image).renderTo (context params properties image)
      (manifestPath catalog image)) :=
  ignoresLog_renderTo _ _ _ world

/-- Nor on the whole image. -/
theorem ignoresLog_writeImage (world : World) :
    IgnoresLog world (writeImage catalog params properties image) := by
  rw [writeImage_eq]
  apply (ignoresLog_replaceFile _ _ world).bind
  intro _ copied _
  exact ignoresLog_copyDark_bind catalog image
    (ignoresLog_renderManifest catalog params properties image) copied

/-- On the tree, an image comes to the same as the steps that copy its files and write the known
text of its manifest. -/
theorem effect_writeImage (tree : FileTree) :
    effect (writeImage catalog params properties image) tree =
      effect (writeSet catalog properties image) tree := by
  have htext : renderText BundledTemplate.image.content (context params properties image) =
      .ok (manifest image.file image.darkFile properties) :=
    renderText_image params properties image
  have hrender := ignoresLog_renderManifest catalog params properties image
  have hwrite := ignoresLog_writeText (manifestPath catalog image)
    (manifest image.file image.darkFile properties)
  rw [writeImage_eq, writeSet, effect_andThen (ignoresLog_copyDark_bind catalog image hrender),
    effect_andThen (ignoresLog_copyDark_bind catalog image hwrite)]
  apply andThen_congr
  intro copied
  rw [effect_andThen hrender, effect_andThen hwrite]
  exact andThen_congr (effect_renderTo htext (manifestPath catalog image)) _

end

/-- The catalog as a whole does not look at the log either. -/
theorem ignoresLog_writeCatalog [Engine] (catalog : String) (params : Value) (properties : Members)
    (images : List Image) (world : World) :
    IgnoresLog world (writeCatalog catalog params properties images) := by
  have hroot : IgnoresLog world ((TemplateSource.bundled .info).renderTo []
      (Manifest.pathIn catalog)) :=
    ignoresLog_renderTo _ _ _ world
  rw [writeCatalog, Manifest.writeRoot]
  apply hroot.bind
  · intro _ rooted _
    exact IgnoresLog.forM (ignoresLog_writeImage catalog params properties)

/-- A catalog comes down to its manifest and the sets of its images in turn. The texts are known by
then, so no template is left in it. -/
theorem effect_writeCatalog [Engine] (catalog : String) (params : Value) (properties : Members)
    (images : List Image) (tree : FileTree) :
    effect (writeCatalog catalog params properties images) tree =
      inTurn (writeText (Manifest.pathIn catalog) Manifest.rootText ::
        images.map (writeSet catalog properties)) tree := by
  have htext : renderText BundledTemplate.info.content [] = .ok Manifest.rootText :=
    Manifest.renderText_info
  have himage := ignoresLog_writeImage catalog params properties
  rw [writeCatalog, effect_andThen, Manifest.writeRoot, effect_renderTo htext, inTurn]
  · apply andThen_congr
    intro rooted
    rw [effect_forM himage]
    exact inTurn_congr (effect_writeImage catalog params properties) rooted
  · exact fun world => IgnoresLog.forM himage

/-- The lines of the log around a catalog have no effect. -/
theorem effect_generateListed [Engine] (project : Project) (entry : Value) (output : String)
    (any dark : List String) (tree : FileTree) :
    effect (generateListed project entry output any dark) tree =
      effect (writeCatalog (Path.join project.directory output) (Manifest.paramsOf entry)
        (propertiesOf entry)
        (Stage.run Image.stages (some entry) (Image.combine any dark))) tree := by
  have hcatalog := ignoresLog_writeCatalog (Path.join project.directory output)
    (Manifest.paramsOf entry) (propertiesOf entry)
    (Stage.run Image.stages (some entry) (Image.combine any dark))
  rw [generateListed, effect_log_bind, effect_bind_log]
  · rfl
  · exact fun world => (hcatalog world).bind fun _ _ _ _ => rfl

/-- In a folder that exists, a listing always succeeds, and what follows goes on with its files. -/
theorem effect_listFiles_bind {directory : String} {tree : FileTree}
    (h : ∃ location, tree.directoryAt? directory = some location)
    (next : List String → Action Unit) :
    effect (listFiles directory >>= next) tree =
      effect (next (filesIn tree tree directory)) tree := by
  obtain ⟨location, hlocation⟩ := h
  have hlist : outcome (listFiles directory) ⟨tree, []⟩ =
      (.ok (filesIn tree tree directory), ⟨tree, []⟩) :=
    outcome_listFiles_ok_iff.2 ⟨location, hlocation, by simp only [filesIn, hlocation], rfl⟩
  rw [effect, outcome_bind, hlist, effect]

/-- The same for the folder of dark files, if one is given and exists. -/
theorem effect_listDark_bind {project : Project} {entry : Value} {adaptive : Option String}
    {tree : FileTree} (hadaptive : darkDirectory? entry = .ok adaptive)
    (h : ∀ directory ∈ adaptive, ∃ location,
      tree.directoryAt? (Path.join project.directory directory) = some location)
    (next : List String → Action Unit) :
    effect (listDark project entry >>= next) tree =
      effect (next (((adaptive.map (Path.join project.directory)).map
        (filesIn tree tree)).getD [])) tree := by
  rw [listDark, hadaptive]
  cases adaptive with
  | none => rfl
  | some directory => exact effect_listFiles_bind (h directory rfl) next

/-- An entry whose directories are there comes down to its catalog. The images are those that the
listings of the tree at its start give, as the catalog writes after both folders are listed. -/
theorem effect_generate [Engine] {project : Project} {entry : Value} {plan : Plan} {tree : FileTree}
    (hplan : Plan.read project entry = .ok plan)
    (hdirectories : ∀ directory ∈ plan.directory :: plan.dark.toList,
      ∃ location, tree.directoryAt? directory = some location) :
    effect (generate project entry) tree =
      inTurn (writeText (Manifest.pathIn plan.catalog) Manifest.rootText ::
        (plan.images tree entry).map (writeSet plan.catalog (propertiesOf entry))) tree := by
  obtain ⟨output, houtput, hbelow⟩ := Result.bind_eq_ok_iff.1 hplan
  obtain ⟨input, hinput, hbelow⟩ := Result.bind_eq_ok_iff.1 hbelow
  obtain ⟨adaptive, hadaptive, hread⟩ := Result.bind_eq_ok_iff.1 hbelow
  cases hread
  rw [generate_eq, houtput, hinput, effect_value_bind, effect_value_bind,
    effect_listFiles_bind (hdirectories _ List.mem_cons_self),
    effect_listDark_bind hadaptive, effect_generateListed, effect_writeCatalog]
  · rfl
  · intro directory hdirectory
    apply hdirectories
    simp [Option.mem_def.1 hdirectory]

/-- What the sets of an entry come to in a tree. -/
def setsOf (plan : Plan) (entry : Value) (tree : FileTree) : Except Failure Unit × FileTree :=
  inTurn (writeText (Manifest.pathIn plan.catalog) Manifest.rootText ::
    (plan.images tree entry).map (writeSet plan.catalog (propertiesOf entry))) tree

/-- What a path reads as behind the sets of an entry, if all of them can be written. -/
def readBehind (plan : Plan) (entry : Value) (tree : FileTree) (path : String) :
    Option (Except FileFault ByteArray) :=
  match setsOf plan entry tree with
  | (.ok (), new) => some (new.read path)
  | (.error _, _) => none

/-- An entry is generated if its sets can be written. What the premise evaluates are the writes and
copies alone, so a run on a fixed tree needs no template to be run. -/
theorem generate_of_readBehind [Engine] {project : Project} {entry : Value} {plan : Plan}
    {tree : FileTree} {path : String} {result : Except FileFault ByteArray}
    (hplan : Plan.read project entry = .ok plan)
    (hdirectories : ∀ directory ∈ plan.directory :: plan.dark.toList,
      (tree.directoryAt? directory).isSome = true)
    (h : readBehind plan entry tree path = some result) :
    ∃ world', outcome (generate project entry) ⟨tree, []⟩ = (.ok (), world') ∧
      world'.tree.read path = result := by
  have heffect : effect (generate project entry) tree = setsOf plan entry tree := by
    rw [setsOf]
    exact effect_generate hplan fun directory hmem =>
      Option.isSome_iff_exists.1 (hdirectories directory hmem)
  rw [readBehind, ← heffect, effect, settled] at h
  rcases hrun : outcome (generate project entry) ⟨tree, []⟩ with ⟨failure | ⟨⟩, world'⟩
  · rw [hrun] at h
    cases h
  · rw [hrun] at h
    exact ⟨world', rfl, Option.some.inj h⟩

end DesignTokens.ImageSet

import DesignTokens.Proofs.Files.Fills
import DesignTokens.Proofs.Generate.ImageSteps

/-!
# The images of a catalog

What stands in a catalog of images when it was generated. An image is placed by its steps
(`writeImage_spec`), and what it wrote stays as long as nothing that is written later leads to the
same file (`stands_of_generate`). That is said of what paths lead to in the end, so it holds in
trees with links as well.
-/

set_option autoImplicit false

namespace DesignTokens.ImageSet

open DesignTokens.Action DesignTokens.FileTree DesignTokens.Template

/-! ### One image -/

/-- What is written after the light file of an image: its dark file, its manifest, and all files of
later images. -/
def usesBehindFile (catalog : String) (image : Image) (later : List Image) : List FileUse :=
  (imageUses catalog image).tail ++ later.flatMap (imageUses catalog)

/-- What is written after the manifest of an image: all files of later images. -/
def usesBehindManifest (catalog : String) (later : List Image) : List FileUse :=
  later.flatMap (imageUses catalog)

/-- Nothing that the uses write leads to the same file as the path. -/
def Unwritten (tree : FileTree) (path : String) (uses : List FileUse) : Prop :=
  ∀ other location, .writes other ∈ uses → tree.fileAt? path = some location →
    tree.fileAt? other ≠ some location

/-- Nothing is written behind the manifest of the last image. -/
theorem unwritten_last (tree : FileTree) (catalog path : String) :
    Unwritten tree path (usesBehindManifest catalog []) := by
  intro other location hother
  cases hother

/-- The trees after the steps of an image: `copied` has its light file, `shaded` its dark file as
well, and the last tree the manifest. -/
structure Placed (catalog : String) (properties : Members) (image : Image)
    (old copied shaded new : FileTree) : Prop where
  file : ∃ inside name content, Written old copied (filePath catalog image) inside name content ∧
    copied.read image.any = .ok content
  dark : ∀ path, image.darkFile = some path →
    ∃ inside name content, Written copied shaded (setPath catalog image path) inside name content
  light : image.darkFile = none → shaded = copied
  manifest : ∃ inside name, Written shaded new (manifestPath catalog image) inside name
    (ImageSet.manifest image.file image.darkFile properties).toUTF8

namespace Placed

variable {catalog : String} {properties : Members} {image : Image}
  {old copied shaded new : FileTree}

/-- From the copied file on, the dark form fills in a path of the image only. -/
theorem fills_dark (h : Placed catalog properties image old copied shaded new) :
    Fills (fun path => .writes path ∈ (imageUses catalog image).tail) copied shaded := by
  cases hdark : image.darkFile with
  | none =>
    rw [h.light hdark]
    exact Fills.refl _
  | some path =>
    obtain ⟨inside, name, content, hwritten⟩ := h.dark path hdark
    exact hwritten.fills (by simp [imageUses, setPath, hdark])

/-- So does the manifest. -/
theorem fills_manifest (h : Placed catalog properties image old copied shaded new) :
    Fills (fun path => .writes path ∈ (imageUses catalog image).tail) shaded new := by
  obtain ⟨inside, name, hwritten⟩ := h.manifest
  exact hwritten.fills (by simp [imageUses, manifestPath, setPath, Manifest.pathIn])

/-- The first step fills in the path of the file. -/
theorem fills_file (h : Placed catalog properties image old copied shaded new) :
    Fills (· = filePath catalog image) old copied := by
  obtain ⟨inside, name, content, hwritten, -⟩ := h.file
  exact hwritten.fills rfl

/-- All three steps together fill in the paths that the image uses. -/
theorem fills (h : Placed catalog properties image old copied shaded new) :
    Fills (fun path => .writes path ∈ imageUses catalog image) old new := by
  refine (h.fills_file.mono ?_).trans ((h.fills_dark.trans h.fills_manifest).mono ?_)
  · rintro path rfl
    exact List.mem_cons_self
  · exact fun path hpath => List.mem_of_mem_tail hpath

/-- The copy of the light file stays unless something later leads to the same file. -/
theorem read_file (h : Placed catalog properties image old copied shaded new)
    {later : List Image} {final : FileTree}
    (hlater : Fills (fun path => .writes path ∈ usesBehindManifest catalog later) new final)
    (hother : Unwritten final (filePath catalog image) (usesBehindFile catalog image later)) :
    ∃ content, copied.read image.any = .ok content ∧
      final.read (filePath catalog image) = .ok content := by
  obtain ⟨inside, name, content, hwritten, hread⟩ := h.file
  have hbehind : Fills (fun path => .writes path ∈ usesBehindFile catalog image later)
      copied final := by
    refine ((h.fills_dark.trans h.fills_manifest).mono ?_).trans (hlater.mono ?_)
    · exact fun path hpath => List.mem_append_left _ hpath
    · exact fun path hpath => List.mem_append_right _ hpath
  exact ⟨content, hread, hwritten.read_later hbehind hother⟩

/-- The manifest stays unless something later leads to the same file. -/
theorem read_manifest (h : Placed catalog properties image old copied shaded new)
    {later : List Image} {final : FileTree}
    (hlater : Fills (fun path => .writes path ∈ usesBehindManifest catalog later) new final)
    (hother : Unwritten final (manifestPath catalog image) (usesBehindManifest catalog later)) :
    final.read (manifestPath catalog image) =
      .ok (ImageSet.manifest image.file image.darkFile properties).toUTF8 := by
  obtain ⟨inside, name, hwritten⟩ := h.manifest
  exact hwritten.read_later hlater hother

/-- A dark file is there ever after. -/
theorem isFile_dark (h : Placed catalog properties image old copied shaded new) {path : String}
    (hdark : image.darkFile = some path) {final : FileTree} (hgrows : Grows new final) :
    final.isFile (setPath catalog image path) = true := by
  obtain ⟨inside, name, content, hwritten⟩ := h.dark path hdark
  apply persists_isFile _ shaded final (h.fills_manifest.grows.trans hgrows)
  exact isFile_eq_true_iff.2 ⟨_, content, hwritten.resolve⟩

end Placed

section
variable {catalog : String} {params : Value} {properties : Members} {world world' : World}

/-- An image makes no link. If it removes none either, then it is placed: its three steps are writes
of known places, each on top of the one before. A copy removes a link if its destination is one, and
only the caller can know whether that happened. -/
theorem writeImage_spec [Engine] {image : Image}
    (h : outcome (writeImage catalog params properties image) world = (.ok (), world')) :
    LinksStay world'.tree world.tree ∧ (LinksStay world.tree world'.tree →
      ∃ copied shaded, Placed catalog properties image world.tree copied shaded world'.tree) := by
  rw [writeImage_eq] at h
  obtain ⟨⟨⟩, copied, hcopy, hbelow⟩ := outcome_bind_ok_iff.1 h
  obtain ⟨⟨⟩, shaded, hshade, hrender⟩ := outcome_bind_ok_iff.1 hbelow
  obtain ⟨rendered, inside, name, htext, hmanifest⟩ :=
    TemplateSource.renderTo_bundled_spec hrender
  cases (renderText_image params properties image).symm.trans htext
  -- no step makes a link, so one that is there at the end was there all the time
  have hcopied := linksBefore_replaceFile hcopy
  have hrendered := hmanifest.grows.linksBefore
  unfold copyDark at hshade
  cases hdark : image.dark with
  | none =>
    have hnone : image.darkFile = none := by simp [Image.darkFile, hdark]
    rw [hdark] at hshade
    cases hshade
    refine ⟨hrendered.trans hcopied, ?_⟩
    intro hlinks
    refine ⟨copied.tree, copied.tree, ?_, by simp [hnone], fun _ => rfl, inside, name, hmanifest⟩
    exact replaceFile_spec (hlinks.trans hrendered) hcopy
  | some source =>
    have hsome : image.darkFile = some (Image.fileNameOf (image.name ++ "Dark") source) := by
      simp [Image.darkFile, hdark]
    rw [hdark] at hshade
    have hshaded := linksBefore_replaceFile hshade
    refine ⟨hrendered.trans (hshaded.trans hcopied), ?_⟩
    intro hlinks
    refine ⟨copied.tree, shaded.tree, ?_, ?_, by simp [hsome], inside, name, hmanifest⟩
    · exact replaceFile_spec (hlinks.trans (hrendered.trans hshaded)) hcopy
    · intro path hpath
      cases hsome.symm.trans hpath
      obtain ⟨inside', name', content, hwritten, -⟩ :=
        replaceFile_spec (hcopied.trans (hlinks.trans hrendered)) hshade
      exact ⟨inside', name', content, hwritten⟩

/-! ### All images -/

/-- Over a list of images, links are at most lost to copies. If all of them stay, only paths of the
images are filled in. -/
theorem writeImages_spec [Engine] {images : List Image}
    (h : outcome (images.forM (writeImage catalog params properties)) world = (.ok (), world')) :
    LinksStay world'.tree world.tree ∧ (LinksStay world.tree world'.tree →
      Fills (fun path => .writes path ∈ images.flatMap (imageUses catalog))
        world.tree world'.tree) := by
  induction images generalizing world with
  | nil =>
    cases h
    exact ⟨fun _ _ hlink => hlink, fun _ => Fills.refl _⟩
  | cons image images ih =>
    obtain ⟨between, himage, himages⟩ := outcome_forM_cons_ok_iff.1 h
    obtain ⟨hmade, hplaced⟩ := writeImage_spec himage
    obtain ⟨hmade', hfills⟩ := ih himages
    refine ⟨hmade'.trans hmade, ?_⟩
    intro hlinks
    obtain ⟨copied, shaded, hplaced⟩ := hplaced (hlinks.trans hmade')
    rw [List.flatMap_cons]
    refine (hplaced.fills.mono ?_).trans ((hfills (hmade.trans hlinks)).mono ?_)
    · exact fun path hpath => List.mem_append_left _ hpath
    · exact fun path hpath => List.mem_append_right _ hpath

/-- An image among those of a catalog: what was written before its dark file, its own steps, and
what was written behind them. -/
theorem writeCatalog_spec [Engine] {earlier later : List Image} {image : Image}
    (h : outcome (writeCatalog catalog params properties (earlier ++ image :: later)) world =
      (.ok (), world'))
    (hlinks : LinksStay world.tree world'.tree) :
    ∃ old copied shaded new, Placed catalog properties image old copied shaded new ∧
      Fills (fun path => .writes path ∈ catalogUses catalog (earlier ++ image :: later))
        world.tree copied ∧
      Fills (fun path => .writes path ∈ usesBehindManifest catalog later) new world'.tree := by
  obtain ⟨⟨⟩, rooted, hroot, himages⟩ := outcome_bind_ok_iff.1 h
  obtain ⟨_, _, _, -, hrooted⟩ := TemplateSource.renderTo_bundled_spec hroot
  obtain ⟨before, hearlier, hbehind⟩ := outcome_forM_append_ok_iff.1 himages
  obtain ⟨after, himage, hlater⟩ := outcome_forM_cons_ok_iff.1 hbehind
  obtain ⟨hmade, hfills⟩ := writeImages_spec hearlier
  obtain ⟨hmade', hplaced⟩ := writeImage_spec himage
  obtain ⟨hmade'', hfills'⟩ := writeImages_spec hlater
  -- a link that is there at the end was there between the steps
  have hrootedStay := hrooted.grows.linksBefore.trans hlinks
  have hbeforeStay := hmade.trans hrootedStay
  obtain ⟨copied, shaded, hplaced⟩ := hplaced (hbeforeStay.trans hmade'')
  refine ⟨before.tree, copied, shaded, after.tree, hplaced, ?_,
    hfills' (hmade'.trans hbeforeStay)⟩
  have hfirst := hfills (hrootedStay.trans (hmade''.trans hmade'))
  refine ((hrooted.fills ?_).trans (hfirst.mono ?_)).trans (hplaced.fills_file.mono ?_)
  · exact List.mem_cons_self
  · intro path hpath
    simp only [catalogUses, List.flatMap_append, List.mem_cons, List.mem_append]
    exact Or.inr (Or.inl hpath)
  · rintro path rfl
    simp [catalogUses, imageUses, filePath, setPath]

end

/-! ### Entries -/

/-- The image is the first one of its name, and there is a dark file of the name. -/
structure MeetsDark (plan : Plan) (old : FileTree) (earlier : List Image) (image : Image) :
    Prop where
  first : ∀ other ∈ earlier, camelCaseFileName other.any ≠ camelCaseFileName image.any
  dark : ∃ dark ∈ plan.darkFiles old, camelCaseFileName dark = camelCaseFileName image.any

/-- A visible file has an image, and the first one of its name takes a dark file of the name. -/
theorem Plan.exists_image (plan : Plan) (entry : Value) {tree : FileTree} {inside : Location}
    {name : String} {content : ByteArray}
    (hdirectory : tree.directoryAt? plan.directory = some inside)
    (hvisible : name.toList.head? ≠ some '.')
    (hnode : tree.node? (inside ++ [name]) = some (.file content)) :
    ∃ earlier image later, plan.images tree entry = earlier ++ image :: later ∧
      image.any = Path.join plan.directory name ∧
      image.name = Color.finalName (Stage.options? (some entry)) (camelCaseFileName image.any) ∧
      (MeetsDark plan tree earlier image → ∃ dark, image.darkFile = some dark) := by
  -- a file that is visible in the directory is listed with its path
  have hlisted : Path.join plan.directory name ∈ plan.files tree := by
    have hmem : name ∈ tree.visibleFiles inside := by
      refine mem_visibleFiles_iff.2 ⟨hvisible, content, ?_⟩
      rw [node?_eq_head? _ (by simp)] at hnode
      exact List.mem_of_head? hnode
    rw [Plan.files, filesIn, hdirectory]
    exact List.mem_map_of_mem hmem
  obtain ⟨before, after, hfiles⟩ := List.append_of_mem hlisted
  obtain ⟨earlier, image, later, himages, hearlier, hany, hname, hdark⟩ :=
    Image.combine_split hfiles
  refine ⟨earlier, image, later, himages, hany, hany ▸ hname, ?_⟩
  rintro ⟨hfirst, hsome⟩
  rw [hany] at hfirst hsome
  have hsource := hdark ?_
  · cases hfound : image.dark with
    | none => exact absurd (hsource.symm.trans hfound) (Image.darkOf_ne_none hsome)
    | some source => exact ⟨_, by rw [Image.darkFile, hfound]; rfl⟩
  · intro other hother
    rw [← hearlier] at hother
    obtain ⟨image', himage', rfl⟩ := List.mem_map.1 hother
    exact hfirst image' himage'

section
variable {project : Project} {entry : Value} {world world' : World}

/-- The manifest of an image stands unless something later leads to the same file. What is later are
the images behind it, as the manifest is the last step of its own image. -/
theorem read_manifest_of_generate [Engine] {plan : Plan} {earlier later : List Image}
    {image : Image}
    (h : outcome (generate project entry) world = (.ok (), world'))
    (hplan : Plan.read project entry = .ok plan) (hlinks : LinksStay world.tree world'.tree)
    (himages : plan.images world.tree entry = earlier ++ image :: later)
    (hother : Unwritten world'.tree (manifestPath plan.catalog image)
      (usesBehindManifest plan.catalog later)) :
    world'.tree.read (manifestPath plan.catalog image) =
      .ok (manifest image.file image.darkFile (propertiesOf entry)).toUTF8 := by
  obtain ⟨plan', start, finish, hplan', hstart, hcatalog, hfinish⟩ := generate_steps h
  cases hplan.symm.trans hplan'
  rw [himages] at hcatalog
  rw [← hstart, hfinish] at hlinks
  rw [hfinish] at hother ⊢
  obtain ⟨_, _, _, _, hplaced, -, hlater⟩ := writeCatalog_spec hcatalog hlinks
  exact hplaced.read_manifest hlater hother

/-- The manifest of an image lists a dark file, which is in the set. -/
def ShowsDark (plan : Plan) (entry : Value) (new : FileTree) (image : Image) : Prop :=
  ∃ dark, image.darkFile = some dark ∧
    new.read (manifestPath plan.catalog image) =
      .ok (manifest image.file (some dark) (propertiesOf entry)).toUTF8 ∧
    new.isFile (setPath plan.catalog image dark) = true

/-- A light file of an entry and its image: the image has the final name of the file. Its copy has
the bytes of the file, unless the entry writes to the file itself or what is written behind the copy
leads to the same file as the copy. If the file is the first one of its name and there is a dark
file of the name, then the manifest lists a dark file and this is in the set, unless what is written
behind the manifest leads to the same file as the manifest. -/
structure Stands (plan : Plan) (entry : Value) (old new : FileTree) (inside : Location)
    (name : String) (content : ByteArray) (earlier : List Image) (image : Image)
    (later : List Image) : Prop where
  source : image.any = Path.join plan.directory name
  finalName : image.name =
    Color.finalName (Stage.options? (some entry)) (camelCaseFileName image.any)
  file : ¬ Target new (catalogUses plan.catalog (plan.images old entry)) (inside ++ [name]) →
    Unwritten new (filePath plan.catalog image) (usesBehindFile plan.catalog image later) →
    new.read (filePath plan.catalog image) = .ok content
  dark : MeetsDark plan old earlier image →
    Unwritten new (manifestPath plan.catalog image) (usesBehindManifest plan.catalog later) →
    ShowsDark plan entry new image

/-- After an entry was generated, each light file stands in its set. No link may be removed: a copy
removes a link at its destination, and the path of an earlier image may lead through that link. -/
theorem stands_of_generate [Engine] (h : outcome (generate project entry) world = (.ok (), world'))
    (hlinks : LinksStay world.tree world'.tree) :
    ∃ plan, Plan.read project entry = .ok plan ∧
      ∀ inside name content, world.tree.directoryAt? plan.directory = some inside →
        ProperName name → name.toList.head? ≠ some '.' →
        world.tree.node? (inside ++ [name]) = some (.file content) →
        Grows world.tree world'.tree ∧
        ∃ earlier image later, plan.images world.tree entry = earlier ++ image :: later ∧
          Stands plan entry world.tree world'.tree inside name content earlier image later := by
  obtain ⟨plan, start, finish, hplan, hstart, hcatalog, hfinish⟩ := generate_steps h
  refine ⟨plan, hplan, ?_⟩
  intro inside name content hdirectory hname hvisible hnode
  obtain ⟨earlier, image, later, himages, hany, hfinal, hdark⟩ :=
    plan.exists_image entry hdirectory hvisible hnode
  rw [himages] at hcatalog
  rw [← hstart, hfinish] at hlinks
  obtain ⟨old, copied, shaded, new, hplaced, hbefore, hlater⟩ := writeCatalog_spec hcatalog hlinks
  rw [hstart] at hbefore
  rw [hfinish]
  have hbehind : Grows copied finish.tree :=
    (hplaced.fills_dark.trans hplaced.fills_manifest).grows.trans hlater.grows
  refine ⟨hbefore.grows.trans hbehind, earlier, image, later, himages, hany, hfinal, ?_, ?_⟩
  · intro hsource hother
    rw [himages] at hsource
    obtain ⟨bytes, hread, hfile⟩ := hplaced.read_file hlater hother
    -- the light file is as it was when it is copied
    have hspared : ∀ path, .writes path ∈ catalogUses plan.catalog (earlier ++ image :: later) →
        copied.fileAt? path ≠ some (inside ++ [name]) :=
      fun path hpath hcopied => hsource ⟨path, hpath, fileAt?_again hbehind hcopied⟩
    rw [hany] at hread
    rwa [hbefore.read_join hdirectory hname hnode hspared hread] at hfile
  · intro hmeets hother
    obtain ⟨dark, hdarkFile⟩ := hdark hmeets
    have hmanifest := hplaced.read_manifest hlater hother
    rw [hdarkFile] at hmanifest
    exact ⟨dark, hdarkFile, hmanifest, hplaced.isFile_dark hdarkFile hlater.grows⟩

end

end DesignTokens.ImageSet

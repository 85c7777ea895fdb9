import DesignTokens.Proofs.Catalog.Names
import DesignTokens.Proofs.Generate.Images

/-!
# Image sets by their names

Which files of a catalog of images may meet. In a tree without links, and if options put no slash
into names, the files of two sets are the same only if the sets have one name (`fileAt?_ne`). So the
names of later files decide which images stand (`imagesets_of_generate`). Files of one name get one
set, in which the last of them stands (`lost_of_coinciding`). With links a copy may cut the path of
another image, so trees with links are left out.
-/

set_option autoImplicit false

namespace DesignTokens.ImageSet

open DesignTokens.Action DesignTokens.FileTree DesignTokens.Template

/-! ### The names of one set -/

/-- The names of the files of an image. -/
def namesOf (image : Image) : List String :=
  image.file :: image.darkFile.toList ++ [Manifest.fileName]

/-- An image writes its files and its manifest, each by its name in the image's folder. -/
theorem imageUses_eq (catalog : String) (image : Image) :
    imageUses catalog image =
      (namesOf image).map fun name => .writes (setPath catalog image name) := by
  simp [imageUses, namesOf, setPath, Manifest.pathIn]

/-- The name of the image holds no slash. -/
def Flat (image : Image) : Prop :=
  '/' ∉ image.name.toList

section
variable {image other : Image}

/-- The folder of an image without slashes has a proper name. -/
theorem Flat.imageset (h : Flat image) : ProperName image.imageset :=
  properName_append h (by decide) (by decide)

/-- All names that such an image writes are free of slashes. -/
theorem Flat.namesOf (h : Flat image) {name : String} (hname : name ∈ namesOf image) :
    '/' ∉ name.toList := by
  have hdarkStem : '/' ∉ (image.name ++ "Dark").toList := Text.not_mem_append h (by decide)
  simp only [ImageSet.namesOf, List.cons_append, List.mem_cons, List.mem_append, Option.mem_toList,
    List.not_mem_nil, or_false] at hname
  rcases hname with rfl | hdark | rfl
  · exact Image.not_mem_fileNameOf h image.any
  · obtain ⟨source, -, rfl⟩ := Option.map_eq_some_iff.1 hdark
    exact Image.not_mem_fileNameOf hdarkStem source
  · decide

/-- The other names of a set are not that of its light file, unless this is called like a
manifest. -/
theorem ne_file_of_mem_tail (hname : other.name = image.name)
    (hfile : image.file ≠ Manifest.fileName) {name : String} (hmem : name ∈ (namesOf other).tail) :
    name ≠ image.file := by
  rintro rfl
  simp only [namesOf, List.cons_append, List.tail_cons, List.mem_append, Option.mem_toList,
    List.mem_singleton] at hmem
  rcases hmem with hdark | hmanifest
  · obtain ⟨source, -, heq⟩ := Option.map_eq_some_iff.1 hdark
    rw [hname] at heq
    exact Image.fileNameOf_dark_ne _ _ _ heq
  · exact hfile hmanifest

/-- The images of an entry have names without slashes if its options have none. -/
theorem Plan.flat {plan : Plan} {entry : Value} {tree : FileTree}
    (hoptions : SlashFree (Stage.options? (some entry))) (h : image ∈ plan.images tree entry) :
    Flat image := by
  rw [Flat, Image.name_of_run h]
  exact hoptions.finalName (not_mem_camelCaseFileName image.any)

end

/-! ### Two sets -/

section
variable {tree : FileTree} {catalog : String} {image other : Image} {location : Location}

/-- The files of two sets meet only in one set and under one name. Without links a path leads where
it is spelled, and the names have no slashes, so the last two parts of the location tell the folder
and the file. -/
theorem fileAt?_ne (hlinkless : tree.Linkless) (himage : Flat image) (hother : Flat other)
    {name otherName : String} (hname : '/' ∉ name.toList) (hotherName : '/' ∉ otherName.toList)
    (hne : other.name = image.name → otherName ≠ name)
    (h : tree.fileAt? (setPath catalog image name) = some location) :
    tree.fileAt? (setPath catalog other otherName) ≠ some location := by
  intro h'
  have hhere := location_of_join_join hlinkless himage.imageset hname h
  have hthere := location_of_join_join hlinkless hother.imageset hotherName h'
  have hsame := List.append_cancel_left (hthere.symm.trans hhere)
  simp only [List.cons.injEq, and_true] at hsame
  obtain ⟨hset, hlast⟩ := hsame
  rw [Image.imageset, Image.imageset, String.append_left_inj] at hset
  exact hne hset hlast

/-- What the files of later sets do not meet is not written by them. -/
theorem unwritten_of_names (hlinkless : tree.Linkless) (himage : Flat image) {name : String}
    (hname : '/' ∉ name.toList) {later : List Image} (hlater : ∀ other ∈ later, Flat other)
    (hne : ∀ other ∈ later, other.name = image.name → name ∉ namesOf other) :
    Unwritten tree (setPath catalog image name) (later.flatMap (imageUses catalog)) := by
  intro path location hpath hfile
  obtain ⟨other, hmem, hwrites⟩ := List.mem_flatMap.1 hpath
  rw [imageUses_eq] at hwrites
  obtain ⟨otherName, hotherName, heq⟩ := List.mem_map.1 hwrites
  cases heq
  have hother := hlater other hmem
  refine fileAt?_ne hlinkless himage hother hname (hother.namesOf hotherName) ?_ hfile
  rintro hsame rfl
  exact hne other hmem hsame hotherName

/-- The file of an image is not written again if no later image of its name has its file name.
Images of another name have another folder. -/
theorem unwritten_file (hlinkless : tree.Linkless) (himage : Flat image) {later : List Image}
    (hlater : ∀ other ∈ later, Flat other) (hmanifest : image.file ≠ Manifest.fileName)
    (hne : ∀ other ∈ later, other.name = image.name → other.file ≠ image.file) :
    Unwritten tree (filePath catalog image) (usesBehindFile catalog image later) := by
  have hfile : '/' ∉ image.file.toList := Image.not_mem_fileNameOf himage image.any
  intro path location hpath hlocation
  rcases List.mem_append.1 hpath with hown | hbehind
  · rw [imageUses_eq, ← List.map_tail] at hown
    obtain ⟨name, hname, heq⟩ := List.mem_map.1 hown
    cases heq
    have hslash := himage.namesOf (List.mem_of_mem_tail hname)
    exact fileAt?_ne hlinkless himage himage hfile hslash
      (fun _ => ne_file_of_mem_tail rfl hmanifest hname) hlocation
  · refine unwritten_of_names hlinkless himage hfile hlater ?_ path location hbehind hlocation
    intro other hmem hsame hname
    rcases List.mem_cons.1 hname with heq | htail
    · exact hne other hmem hsame heq.symm
    · exact ne_file_of_mem_tail hsame hmanifest htail rfl

/-- Its manifest is not written again if no later image has its name. -/
theorem unwritten_manifest (hlinkless : tree.Linkless) (himage : Flat image) {later : List Image}
    (hlater : ∀ other ∈ later, Flat other) (hne : ∀ other ∈ later, other.name ≠ image.name) :
    Unwritten tree (manifestPath catalog image) (usesBehindManifest catalog later) :=
  unwritten_of_names hlinkless himage (by decide) hlater
    fun other hmem hsame => absurd hsame (hne other hmem)

/-- An entry writes below its output directory only. Without links the files lie where they are
spelled, and every path starts with that directory. -/
theorem not_target {images : List Image} (hlinkless : tree.Linkless)
    (himages : ∀ image ∈ images, Flat image) (hout : ¬ spelled tree.current catalog <+: location) :
    ¬ Target tree (catalogUses catalog images) location := by
  rintro ⟨path, hpath, hfile⟩
  apply hout
  rcases List.mem_cons.1 hpath with hroot | hset
  · cases hroot
    rw [location_of_fileAt? hlinkless hfile, Manifest.spelled_pathIn]
    exact List.prefix_append _ _
  · obtain ⟨image, himage, hwrites⟩ := List.mem_flatMap.1 hset
    rw [imageUses_eq] at hwrites
    obtain ⟨name, hname, heq⟩ := List.mem_map.1 hwrites
    cases heq
    have hflat := himages image himage
    rw [location_of_join_join hlinkless hflat.imageset (hflat.namesOf hname) hfile]
    exact List.prefix_append _ _

end

/-! ### Entries -/

/-- In a tree without links, and if the options put no slash into names, the copy of a file outside
of the output directory has its bytes, unless it is called like a manifest or a later image has the
same name and the same file. The set of the first file of its name shows a dark file, if there is
one of the name, unless a later image has the same name. -/
structure StandsByName (plan : Plan) (entry : Value) (old new : FileTree) (inside : Location)
    (name : String) (content : ByteArray) (earlier : List Image) (image : Image)
    (later : List Image) : Prop where
  file : ¬ spelled old.current plan.catalog <+: inside ++ [name] →
    image.file ≠ Manifest.fileName →
    (∀ other ∈ later, other.name = image.name → other.file ≠ image.file) →
    new.read (filePath plan.catalog image) = .ok content
  dark : MeetsDark plan old earlier image → (∀ other ∈ later, other.name ≠ image.name) →
    ShowsDark plan entry new image

/-- What stands by what paths lead to stands by names. Without links and slashes two paths lead to
one file only if folder and name agree, so the premises about paths become premises about names. -/
theorem Stands.byName {plan : Plan} {entry : Value} {old new : FileTree} {inside : Location}
    {name : String} {content : ByteArray} {earlier later : List Image} {image : Image}
    (h : Stands plan entry old new inside name content earlier image later)
    (hgrows : Grows old new) (hlinkless : old.Linkless)
    (hoptions : SlashFree (Stage.options? (some entry)))
    (himages : plan.images old entry = earlier ++ image :: later) :
    StandsByName plan entry old new inside name content earlier image later := by
  have hnew : new.Linkless := hgrows.linkless hlinkless
  have hflat : ∀ other ∈ plan.images old entry, Flat other := fun other => Plan.flat hoptions
  have hall := hflat
  rw [himages] at hall
  have himage : Flat image := hall image (by simp)
  have hlater : ∀ other ∈ later, Flat other := fun other hmem => hall other (by simp [hmem])
  constructor
  · intro hout hmanifest hne
    rw [← hgrows.current] at hout
    exact h.file (not_target hnew hflat hout) (unwritten_file hnew himage hlater hmanifest hne)
  · intro hmeets hne
    exact h.dark hmeets (unwritten_manifest hnew himage hlater hne)

/-- Each visible file of the directory of light files stands in its set. -/
def SetsStand (plan : Plan) (entry : Value) (old new : FileTree) : Prop :=
  ∀ inside name content, old.directoryAt? plan.directory = some inside → ProperName name →
    name.toList.head? ≠ some '.' → old.node? (inside ++ [name]) = some (.file content) →
    ∃ earlier image later, plan.images old entry = earlier ++ image :: later ∧
      Stands plan entry old new inside name content earlier image later ∧
      (old.Linkless → SlashFree (Stage.options? (some entry)) →
        StandsByName plan entry old new inside name content earlier image later)

/-- After an entry was generated, each light file stands in its set: by what paths lead to, if no
link was removed, and by the names of files in a tree without links. -/
theorem imagesets_of_generate [Engine] {project : Project} {entry : Value} {world world' : World}
    (h : outcome (generate project entry) world = (.ok (), world'))
    (hlinks : LinksStay world.tree world'.tree) :
    ∃ plan, Plan.read project entry = .ok plan ∧
      SetsStand plan entry world.tree world'.tree := by
  obtain ⟨plan, hplan, hstands⟩ := stands_of_generate h hlinks
  refine ⟨plan, hplan, ?_⟩
  intro inside name content hdirectory hname hvisible hnode
  obtain ⟨hgrows, earlier, image, later, himages, hstand⟩ :=
    hstands inside name content hdirectory hname hvisible hnode
  exact ⟨earlier, image, later, himages, hstand,
    fun hlinkless hoptions => hstand.byName hgrows hlinkless hoptions himages⟩

/-! ### Files of one name -/

/-- A tree with two light files and a dark one that have one name. -/
def coinciding : FileTree :=
  ⟨[(["dark"], .directory), (["dark", "a-b.svg"], .file ⟨#[67]⟩),
    (["in"], .directory), (["in", "a-b.svg"], .file ⟨#[65]⟩),
    (["in", "a_b.svg"], .file ⟨#[66]⟩)], []⟩

/-- An entry for the images of that tree. -/
def coincidingEntry : Value :=
  .object [("adaptive", .string "dark"), ("input", .string "in"), ("output", .string "out")]

/-- The directories of that entry. -/
def coincidingPlan : Plan :=
  ⟨"out", "in", some "dark"⟩

/-- A project with an empty document. -/
def blankProject : Project :=
  ⟨.ofMembers [], ""⟩

/-- The entry of the fixture is read as this plan. -/
theorem read_coincidingPlan : Plan.read blankProject coincidingEntry = .ok coincidingPlan := by
  decide +kernel

/-- The second light file is copied over the first one. -/
theorem generate_coinciding [Engine] : ∃ world',
    outcome (generate blankProject coincidingEntry) ⟨coinciding, []⟩ = (.ok (), world') ∧
      world'.tree.read "out/aB.imageset/aB.svg" = .ok ⟨#[66]⟩ :=
  generate_of_readBehind read_coincidingPlan (by decide +kernel) (by decide +kernel)

/-- The tree has no links. -/
theorem linkless_coinciding : coinciding.Linkless :=
  linkless_of_entries (by simp [coinciding])

open scoped Engine in
/-- The conclusion holds of a tree with files of one name. -/
theorem imagesets_of_generate_coinciding : ∃ world',
    outcome (generate blankProject coincidingEntry) ⟨coinciding, []⟩ = (.ok (), world') ∧
      LinksStay coinciding world'.tree ∧
      ∃ plan, Plan.read blankProject coincidingEntry = .ok plan ∧
        SetsStand plan coincidingEntry coinciding world'.tree := by
  obtain ⟨world', h, -⟩ := generate_coinciding
  have hlinks : LinksStay coinciding world'.tree := linkless_coinciding.linksStay _
  exact ⟨world', h, hlinks, imagesets_of_generate h hlinks⟩

/-- The image that a light file has by its name alone. -/
def imageOf (entry : Value) (source : String) : Image :=
  ⟨Color.finalName (Stage.options? (some entry)) (camelCaseFileName source), source, none⟩

/-- Each light file has its bytes in the set of its name. -/
def KeepsFiles (plan : Plan) (entry : Value) (old new : FileTree) : Prop :=
  ∀ source ∈ plan.files old, ∀ content, old.read source = .ok content →
    new.read (filePath plan.catalog (imageOf entry source)) = .ok content

/-- The set of each light file lists a dark file that is in it, if there is a dark file of the
name. -/
def ListsDark (plan : Plan) (entry : Value) (old new : FileTree) : Prop :=
  ∀ source ∈ plan.files old,
    (∃ dark ∈ plan.darkFiles old, camelCaseFileName dark = camelCaseFileName source) →
    ∃ file name, new.read (manifestPath plan.catalog (imageOf entry source)) =
        .ok (manifest file (some name) (propertiesOf entry)).toUTF8 ∧
      new.isFile (setPath plan.catalog (imageOf entry source) name) = true

/-- The word that says that an appearance is dark. -/
theorem mem_manifest_of_dark (file name : String) (properties : Members) :
    'k' ∈ (manifest file (some name) properties).toList := by
  have hhead : 'k' ∈ (BundledTemplate.darkHead ++ "\"filename\" : \"").toList := by
    decide +kernel
  have htext : 'k' ∈ (darkText (some name)).toList := by
    rw [darkText, String.toList_join, List.mem_flatMap]
    exact ⟨_, List.mem_cons_self, hhead⟩
  rw [manifest, String.toList_join, List.mem_flatMap]
  exact ⟨darkText (some name), by simp, htext⟩

/-- The manifest of the second light file is written over that of the first one. -/
theorem read_coinciding_manifest [Engine] {world' : World}
    (h : outcome (generate blankProject coincidingEntry) ⟨coinciding, []⟩ = (.ok (), world')) :
    world'.tree.read "out/aB.imageset/Contents.json" = .ok (manifest "aB.svg" none []).toUTF8 := by
  have himages : coincidingPlan.images coinciding coincidingEntry =
      [⟨"aB", "in/a-b.svg", some "dark/a-b.svg"⟩] ++ ⟨"aB", "in/a_b.svg", none⟩ :: [] := by
    decide +kernel
  have hpath : manifestPath coincidingPlan.catalog ⟨"aB", "in/a_b.svg", none⟩ =
      "out/aB.imageset/Contents.json" := by
    decide +kernel
  have hfile : Image.file ⟨"aB", "in/a_b.svg", none⟩ = "aB.svg" := by decide +kernel
  have hproperties : propertiesOf coincidingEntry = [] := by decide +kernel
  have hlinks : LinksStay coinciding world'.tree := linkless_coinciding.linksStay _
  have hread := read_manifest_of_generate h read_coincidingPlan hlinks himages
    (unwritten_last _ _ _)
  rw [hpath, hfile, hproperties] at hread
  exact hread

open scoped Engine in
/-- Of two light files of one name the first is lost, and so is the dark file that it took. -/
theorem lost_of_coinciding : ∃ world',
    outcome (generate blankProject coincidingEntry) ⟨coinciding, []⟩ = (.ok (), world') ∧
      Plan.read blankProject coincidingEntry = .ok coincidingPlan ∧
      ¬ KeepsFiles coincidingPlan coincidingEntry coinciding world'.tree ∧
      ¬ ListsDark coincidingPlan coincidingEntry coinciding world'.tree := by
  obtain ⟨world', h, hread⟩ := generate_coinciding
  refine ⟨world', h, read_coincidingPlan, ?_, ?_⟩
  · intro hkeeps
    have hpath : filePath "out" (imageOf coincidingEntry "in/a-b.svg") =
        "out/aB.imageset/aB.svg" := by
      decide +kernel
    have hfirst := hkeeps "in/a-b.svg" (by decide +kernel) ⟨#[65]⟩ (by decide +kernel)
    rw [coincidingPlan, hpath, hread] at hfirst
    revert hfirst
    decide
  · intro hlists
    obtain ⟨file, name, hmanifest, -⟩ := hlists "in/a_b.svg" (by decide +kernel)
      ⟨"dark/a-b.svg", by decide +kernel, by decide +kernel⟩
    -- the manifest that is there in the end lists the light file only
    have hpath : manifestPath "out" (imageOf coincidingEntry "in/a_b.svg") =
        "out/aB.imageset/Contents.json" := by
      decide +kernel
    rw [coincidingPlan, hpath, read_coinciding_manifest h] at hmanifest
    have hsame := Except.ok.inj hmanifest
    rw [String.toUTF8_eq_toByteArray, String.toUTF8_eq_toByteArray, String.toByteArray_inj] at hsame
    have hmem := mem_manifest_of_dark file name (propertiesOf coincidingEntry)
    rw [← hsame, manifest, String.toList_join] at hmem
    revert hmem
    decide +kernel

end DesignTokens.ImageSet

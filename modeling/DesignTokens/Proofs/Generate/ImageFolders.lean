import DesignTokens.Proofs.Generate.Footprint
import DesignTokens.Proofs.Generate.ImageNames

/-!
# Folders of images

An entry for images changes files in one kind of place only: the manifest of its catalog and what
lies directly inside the folder of a set (`InSets`), whatever the names of its files are and whether
it succeeds or fails (`files_of_generate`). The name of a file can leave nothing of the name of an
image, or a dot, or two dots. The path of the copy then ends in a slash or in dots and cannot be
written, so that the frame admits it although it names the folder or the catalog
(`admits_join`).
-/

set_option autoImplicit false

namespace DesignTokens

open DesignTokens.Action DesignTokens.FileTree

/-! ### Paths that are tried in a folder -/

namespace FileTree

variable {folder name : String}

/-- A path into a folder that ends in a name ends in the name. -/
theorem EndsInName.properName (hfolder : folder ≠ "") (hslash : '/' ∉ name.toList)
    (h : EndsInName (Path.join folder name)) : ProperName name := by
  have hempty : name ≠ "" := by
    rintro rfl
    obtain ⟨before, hjoin, -⟩ := toList_join hfolder hslash
    have hends : endsInSlash (Path.join folder "") = true := by
      simp [endsInSlash, hjoin]
    simp [h.noSlash] at hends
  obtain ⟨before, last, hnames, hdot, hup⟩ := h.last
  rw [components_join hfolder hempty hslash] at hnames
  obtain ⟨-, hlast⟩ := List.append_inj' hnames rfl
  obtain rfl := List.singleton_inj.1 hlast
  exact ⟨hempty, hdot, hup, hslash⟩

/-- On the way to something in a folder stands what is on the way to anything else in it. -/
theorem leading_join {other : String} (hfolder : folder ≠ "") (hslash : '/' ∉ name.toList)
    (hother : ProperName other) {current location : Location}
    (h : Leading current (Path.join folder name) location) :
    Leading current (Path.join folder other) location := by
  obtain ⟨first, rest, hrest, hnames, rfl⟩ := h
  have hstart : start current (Path.join folder other) = start current (Path.join folder name) := by
    rw [start_join current hfolder hother.noSlash, start_join current hfolder hslash]
  -- the components of the folder begin with what leads on
  have hfirst : ∃ later, components folder = first ++ later := by
    by_cases hempty : name = ""
    · subst hempty
      rw [components_join_append hfolder hslash] at hnames
      exact ⟨rest, by simpa [components, Text.splitOn] using hnames⟩
    · rw [components_join hfolder hempty hslash] at hnames
      refine ⟨rest.dropLast, ?_⟩
      rw [← List.dropLast_append_of_ne_nil hrest, ← hnames, List.dropLast_concat]
  obtain ⟨later, hlater⟩ := hfirst
  refine ⟨first, later ++ [other], by simp, ?_, by rw [hstart]⟩
  rw [components_join hfolder hother.notEmpty hother.noSlash, hlater, List.append_assoc]

/-- If all names in a folder are allowed, whatever is tried in it stays in the frame. That includes
names such as `..`, under which nothing can be written: a write then fails, and what was touched on
the way lies on the way to the manifest, too. -/
theorem admits_join {allowed : String → Prop} (hfolder : folder ≠ "") (hslash : '/' ∉ name.toList)
    (h : ∀ other, ProperName other → allowed (Path.join folder other)) :
    Admits allowed (Path.join folder name) where
  written hends := h name (hends.properName hfolder hslash)
  leading current location hleading := by
    have hmanifest := h _ Manifest.properName_fileName
    exact ⟨_, hmanifest, leading_join hfolder hslash Manifest.properName_fileName hleading⟩

end FileTree

namespace ImageSet

/-! ### What an entry changes -/

/-- A path in a catalog of images: its manifest, or a file directly inside the folder of a set. -/
inductive InSets (catalog : String) : String → Prop
  | root : InSets catalog (Manifest.pathIn catalog)
  | inSet {stem name : String} (hfolder : ProperName (stem ++ ".imageset"))
    (hname : ProperName name) :
    InSets catalog (Path.join (Path.join catalog (stem ++ ".imageset")) name)

/-- What an image without slashes writes is in its folder. -/
theorem admits_imageUses {catalog path : String} {image : Image} (hflat : Flat image)
    (h : .writes path ∈ imageUses catalog image) : Admits (InSets catalog) path := by
  rw [imageUses_eq] at h
  obtain ⟨name, hname, heq⟩ := List.mem_map.1 h
  rw [← FileUse.writes.inj heq]
  exact admits_join (join_ne_empty catalog hflat.imageset.notEmpty) (hflat.namesOf hname)
    fun _ hother => .inSet hflat.imageset hother

/-- What an entry writes it writes in its catalog, for images of some files. Which files these are
is not needed to tell where the results lie. -/
theorem mem_uses {before after : FileTree} {project : Project} {entry : Value} {path : String}
    (h : .writes path ∈ uses before after project entry) :
    ∃ output any dark, Manifest.outputKey.required Shape.string (some entry) = .ok output ∧
      .writes path ∈ catalogUses (Path.join project.directory output)
        (Stage.run Image.stages (some entry) (Image.combine any dark)) := by
  cases houtput : Manifest.outputKey.required Shape.string (some entry) with
  | error problem =>
    rw [uses, houtput] at h
    cases h
  | ok output =>
  cases hinput : inputKey.required Shape.string (some entry) with
  | error problem =>
    rw [uses, houtput, hinput] at h
    cases h
  | ok input =>
  cases hadaptive : darkDirectory? entry with
  | error problem =>
    rw [uses, houtput, hinput, hadaptive] at h
    simp [FileUse.ofExcept, bind, Except.bind, pure, Except.pure] at h
  | ok adaptive =>
    rw [uses_eq before after project houtput hinput hadaptive] at h
    rcases List.mem_cons.1 h with hlists | hbehind
    · cases hlists
    rcases List.mem_append.1 hbehind with hlists | hwrites
    · obtain ⟨_, -, heq⟩ := List.mem_map.1 hlists
      cases heq
    · exact ⟨output, _, _, rfl, hwrites⟩

/-- A path in the catalog of an entry. -/
def InCatalog (project : Project) (entry : Value) (path : String) : Prop :=
  ∃ output, Manifest.outputKey.required Shape.string (some entry) = .ok output ∧
    InSets (Path.join project.directory output) path

/-- What a section writes is in its catalog, if the options bring in no slash. -/
theorem admits_uses {before after : FileTree} {project : Project} {entry : Value}
    (hoptions : SlashFree (Stage.options? (some entry))) {path : String}
    (h : .writes path ∈ uses before after project entry) :
    Admits (InCatalog project entry) path := by
  obtain ⟨output, any, dark, houtput, hcatalog⟩ := mem_uses h
  rcases List.mem_cons.1 hcatalog with hroot | hset
  · rw [FileUse.writes.inj hroot]
    exact .of_allowed ⟨output, houtput, .root⟩
  · obtain ⟨image, himage, huse⟩ := List.mem_flatMap.1 hset
    have hflat : Flat image := by
      rw [Flat, Image.name_of_run himage]
      exact hoptions.finalName (not_mem_camelCaseFileName image.any)
    exact (admits_imageUses hflat huse).mono fun _ hpath => ⟨output, houtput, hpath⟩

/-- The locations of the files of a catalog: its manifest, and all that lies directly inside a
folder which is a single component directly below it and ends in `.imageset`. -/
inductive InCatalogAt (catalog : Location) : Location → Prop
  | root : InCatalogAt catalog (catalog ++ [Manifest.fileName])
  | inSet {stem name : String} (hfolder : ProperName (stem ++ ".imageset"))
    (hname : ProperName name) : InCatalogAt catalog (catalog ++ [stem ++ ".imageset", name])

/-- Where the folders of images are is spelled from the catalog on. -/
theorem InSets.spelled {catalog path : String} (h : InSets catalog path) (current : Location) :
    InCatalogAt (spelled current catalog) (FileTree.spelled current path) := by
  cases h with
  | root =>
    rw [Manifest.spelled_pathIn]
    exact .root
  | inSet hfolder hname =>
    rw [spelled_join_join hfolder hname]
    exact .inSet hfolder hname

/-- In a tree without links, and if options put no slash into names, whatever an entry for images
creates, overwrites or deletes is the manifest of its catalog or lies directly inside the folder of
a set, apart from directories that are made. This is so for all names of files, and also for an
entry that fails. -/
theorem files_of_generate [Template.Engine] {project : Project} {entry : Value} {world : World}
    (hlinkless : world.tree.Linkless) (hoptions : SlashFree (Stage.options? (some entry))) :
    ∀ location,
      (outcome (generate project entry) world).2.tree.slice location ≠ world.tree.slice location →
      (world.tree.slice location = [] ∧
        (outcome (generate project entry) world).2.tree.slice location = [.directory]) ∨
      ∃ output, Manifest.outputKey.required Shape.string (some entry) = .ok output ∧
        InCatalogAt (spelled world.tree.current (Path.join project.directory output)) location := by
  have htouches : Touches (InCatalog project entry) world.tree
      (outcome (generate project entry) world).2.tree := by
    refine (inherited_staysIn _).generateImages ?_ hlinkless
    exact serves_admitted fun _ hpath => admits_uses hoptions hpath
  intro location hchanged
  rcases htouches.slice location with hsame | ⟨path, ⟨output, houtput, hpath⟩, rfl⟩ | ⟨-, hmade⟩
  · exact absurd hsame hchanged
  · exact Or.inr ⟨output, houtput, hpath.spelled _⟩
  · exact Or.inl hmade

/-- A file whose name leaves nothing of the name of an image, and an empty extension. -/
def dotted : FileTree :=
  ⟨[(["in"], .directory), (["in", "-."], .file ⟨#[65]⟩)], []⟩

/-- An entry for the images of that tree with a dot in front of their names. -/
def dottedEntry : Value :=
  .object [("input", .string "in"), ("output", .string "out"),
    ("process", .object [("addPrefix", .string ".")])]

open scoped Template.Engine in
/-- The copy would be called `..`, which leads back to the catalog. It fails, and what the entry has
changed by then stays in the catalog. -/
theorem files_of_generate_dotted :
    dotted.Linkless ∧ SlashFree (Stage.options? (some dottedEntry)) ∧
      Plan.images ⟨"out", "in", none⟩ dotted dottedEntry = [⟨".", "in/-.", none⟩] ∧
      filePath "out" ⟨".", "in/-.", none⟩ = "out/..imageset/.." ∧
      (outcome (generate blankProject dottedEntry) ⟨dotted, []⟩).1.isOk = false ∧
      ∀ location, (outcome (generate blankProject dottedEntry) ⟨dotted, []⟩).2.tree.slice location ≠
          dotted.slice location →
        (dotted.slice location = [] ∧
          (outcome (generate blankProject dottedEntry) ⟨dotted, []⟩).2.tree.slice location =
            [.directory]) ∨
        ∃ output, Manifest.outputKey.required Shape.string (some dottedEntry) = .ok output ∧
          InCatalogAt (spelled dotted.current (Path.join blankProject.directory output))
            location := by
  have hlinkless : dotted.Linkless := linkless_of_entries (by simp [dotted])
  have hoptions : SlashFree (Stage.options? (some dottedEntry)) := by
    constructor
    · rintro start ⟨⟩
      decide
    · rintro ending ⟨⟩
  exact ⟨hlinkless, hoptions, by decide +kernel, by decide +kernel, by decide +kernel,
    files_of_generate hlinkless hoptions⟩

end ImageSet

end DesignTokens

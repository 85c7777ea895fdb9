import DesignTokens.Proofs.Catalog.Names
import DesignTokens.Proofs.Files.Fills
import DesignTokens.Proofs.Generate.Colors
import DesignTokens.Proofs.Generate.Inherited

/-!
# Folders of colours

The files that an entry for colours writes are the manifest of its catalog and one for each name of
a leaf, in the folder of the final name (`generate_fills`). Names go into paths as they are. A name
without a slash gives a folder directly inside the catalog (`manifests_of_generate`); a key with
slashes leads to other places, and out of the catalog as well (`escapes_of_slash`).
-/

set_option autoImplicit false

namespace DesignTokens.ColorSet

open DesignTokens.Action DesignTokens.FileTree

/-! ### Files of an entry -/

/-- Filling nothing but the files of some paths is inherited. -/
theorem inherited_onlyFills [Template.Engine] (allowed : String → Prop) :
    Inherited (Single (OnlyFills allowed)) :=
  .of_preorder (R := Fills allowed) Fills.refl Fills.trans

/-- The paths of an entry are the manifest of its catalog and those of its names. -/
theorem mem_uses {project : Project} {entry : Value} {use : FileUse}
    (h : use ∈ uses project entry) :
    ∃ spec, Spec.read project.token entry = .ok spec ∧
      (use = .writes (Manifest.pathIn (Path.join project.directory spec.output)) ∨
        ∃ name ∈ spec.names, use = .writes (spec.manifestPath project entry name)) := by
  unfold uses at h
  cases hspec : Spec.read project.token entry with
  | error problem =>
    rw [hspec] at h
    cases h
  | ok spec =>
    rw [hspec] at h
    refine ⟨spec, rfl, ?_⟩
    change use ∈ FileUse.ofExcept ((Color.combine spec.any spec.dark).map fun colors =>
      catalogUses (Path.join project.directory spec.output)
        (Stage.run Color.stages (some entry) colors)) at h
    cases hcolors : Color.combine spec.any spec.dark with
    | error problem =>
      rw [hcolors] at h
      cases h
    | ok colors =>
      rw [hcolors] at h
      have hmem : use ∈ catalogUses (Path.join project.directory spec.output)
          (Stage.run Color.stages (some entry) colors) := h
      rw [Color.run_stages] at hmem
      rcases List.mem_cons.1 hmem with rfl | hmem
      · exact Or.inl rfl
      · obtain ⟨color, hcolor, rfl⟩ := List.mem_map.1 hmem
        obtain ⟨raw, hraw, rfl⟩ := List.mem_map.1 hcolor
        exact Or.inr ⟨raw.name, Color.name_of_combine hcolors raw hraw, rfl⟩

/-- An entry fills the files of its paths, whether it is generated or fails. The steps of the
generator are all writes here, so it is enough that writes fill in their own path (`Inherited`). -/
theorem generate_fills [Template.Engine] (project : Project) (entry : Value) (world : World) :
    Fills (fun path => .writes path ∈ uses project entry) world.tree
      (outcome (generate project entry) world).2.tree := by
  -- nothing is listed or copied
  have hwrites {use : FileUse} (huse : use ∈ uses project entry) : ∃ path, use = .writes path := by
    obtain ⟨spec, -, rfl | ⟨name, -, rfl⟩⟩ := mem_uses huse <;> exact ⟨_, rfl⟩
  have hserves : Serves (Single (OnlyFills fun path => .writes path ∈ uses project entry))
      world.tree (uses project entry) := by
    constructor
    · exact fun _ => (inherited_onlyFills _).rendered (fun _ _ => onlyFills_look _ _) _
    · intro directory hdirectory
      obtain ⟨_, heq⟩ := hwrites hdirectory
      cases heq
    · exact fun hpath content _ => onlyFills_writeText hpath content
    · rintro source destination ⟨directory, hdirectory, -⟩
      obtain ⟨_, heq⟩ := hwrites hdirectory
      cases heq
  exact (inherited_onlyFills _).generateColors hserves

/-- A path of an entry: the manifest of the catalog, or the one in the folder of the final name of a
leaf. The folder of a name without a slash is a single component directly below the catalog. -/
def IsManifest (project : Project) (entry : Value) (spec : Spec) (path : String) : Prop :=
  let catalog := Path.join project.directory spec.output
  path = Manifest.pathIn catalog ∨
    ∃ name ∈ spec.names,
      let folder := Color.finalName (Stage.options? (some entry)) name ++ ".colorset"
      path = Manifest.pathIn (Path.join catalog folder) ∧
        ('/' ∉ name.toList → ProperName folder ∧ Below catalog path [folder, Manifest.fileName])

/-- Everything that a section writes is one of its manifests, if the options bring in no slash. -/
theorem isManifest_of_mem_uses {project : Project} {entry : Value} {path : String}
    (hoptions : SlashFree (Stage.options? (some entry)))
    (h : .writes path ∈ uses project entry) :
    ∃ spec, Spec.read project.token entry = .ok spec ∧ IsManifest project entry spec path := by
  obtain ⟨spec, hspec, hroot | ⟨name, hname, hmanifest⟩⟩ := mem_uses h
  · exact ⟨spec, hspec, Or.inl (FileUse.writes.inj hroot)⟩
  · have hpath := FileUse.writes.inj hmanifest
    refine ⟨spec, hspec, Or.inr ⟨name, hname, hpath, ?_⟩⟩
    intro hslash
    have hfolder : ProperName
        (Color.finalName (Stage.options? (some entry)) name ++ ".colorset") :=
      properName_append (hoptions.finalName hslash) (by decide) (by decide)
    refine ⟨hfolder, ?_⟩
    rw [hpath]
    exact ((Below.self _).join hfolder).join Manifest.properName_fileName

/-- Whether an entry for colours is generated or fails, each file that it leaves different is the
manifest of its catalog or the one in the folder of the final name of a leaf. If the options put no
slash into names, then the folder of each name without a slash is a single component directly below
the catalog. -/
theorem manifests_of_generate [Template.Engine] {project : Project} {entry : Value}
    (hoptions : SlashFree (Stage.options? (some entry))) (world : World) :
    ∀ location,
      (outcome (generate project entry) world).2.tree.slice location ≠ world.tree.slice location →
      (outcome (generate project entry) world).2.tree.slice location = [.directory] ∨
      ∃ spec path, Spec.read project.token entry = .ok spec ∧
        (outcome (generate project entry) world).2.tree.fileAt? path = some location ∧
        IsManifest project entry spec path := by
  intro location hchanged
  rcases (generate_fills project entry world).slice location with
    hsame | ⟨-, hmade⟩ | ⟨path, hpath, hfile⟩
  · exact absurd hsame hchanged
  · exact Or.inl hmade
  · obtain ⟨spec, hspec, hmanifest⟩ := isManifest_of_mem_uses hoptions hpath
    exact Or.inr ⟨spec, path, hspec, hfile, hmanifest⟩

/-- An entry whose options put something around names. -/
def wrappedEntry : Value :=
  .object [
    ("input", .object [("keys", .array [.string "l"])]),
    ("output", .string "out"),
    ("process", .object [("addPrefix", .string "app"), ("addSuffix", .string "..")])]

/-- A world without files. -/
def emptyWorld : World :=
  ⟨⟨[], []⟩, []⟩

open scoped Template.Engine in
/-- The conclusion holds of an entry with options and a document in which a name is repeated. -/
theorem manifests_of_generate_wrapped :
    SlashFree (Stage.options? (some wrappedEntry)) ∧
      ∀ location, (outcome (generate repeatedName wrappedEntry) emptyWorld).2.tree.slice location ≠
          emptyWorld.tree.slice location →
        (outcome (generate repeatedName wrappedEntry) emptyWorld).2.tree.slice location =
          [.directory] ∨
        ∃ spec path, Spec.read repeatedName.token wrappedEntry = .ok spec ∧
          (outcome (generate repeatedName wrappedEntry) emptyWorld).2.tree.fileAt? path =
            some location ∧
          IsManifest repeatedName wrappedEntry spec path := by
  have hoptions : SlashFree (Stage.options? (some wrappedEntry)) := by
    constructor
    · rintro start ⟨⟩
      decide
    · rintro ending ⟨⟩
      decide
  exact ⟨hoptions, manifests_of_generate hoptions emptyWorld⟩

/-! ### Keys that lead out of the catalog -/

/-- Each file that is left different is the manifest of the catalog, or the one in a folder that is
a single component directly below it. -/
def StaysInCatalog (catalog : String) (old new : FileTree) : Prop :=
  ∀ location, new.slice location ≠ old.slice location →
    new.slice location = [.directory] ∨
    ∃ path, new.fileAt? path = some location ∧
      (Below catalog path [Manifest.fileName] ∨
        ∃ folder, ProperName (folder ++ ".colorset") ∧
          Below catalog path [folder ++ ".colorset", Manifest.fileName])

/-- In a tree without links, what stays in a catalog lies below the location that the catalog is
spelled at. -/
theorem StaysInCatalog.below {catalog : String} {old new : FileTree} {location : Location}
    (h : StaysInCatalog catalog old new) (hlinkless : new.Linkless)
    (hchanged : new.slice location ≠ old.slice location)
    (hfile : new.slice location ≠ [.directory]) : spelled new.current catalog <+: location := by
  rcases h location hchanged with hdirectory | ⟨path, hpath, hbelow⟩
  · exact absurd hdirectory hfile
  · rw [location_of_fileAt? hlinkless hpath]
    have hmanifest := Manifest.properName_fileName
    rcases hbelow with hroot | ⟨folder, hfolder, hset⟩
    · rw [hroot.spelled_append (by simp [hmanifest])]
      exact List.prefix_append _ _
    · rw [hset.spelled_append (by simp [hfolder, hmanifest])]
      exact List.prefix_append _ _

/-- A document in which a key leads upwards. -/
def upwards : Project :=
  ⟨.ofMembers [("c", .object [("../x", colorLeaf "#111111")])], ""⟩

/-- An entry for the colours of that document. -/
def upwardsEntry : Value :=
  .object [("input", .object [("keys", .array [.string "c"])]), ("output", .string "out")]

/-- The colour of that entry, with what its manifest shows. -/
def upwardsColor : Shown :=
  ⟨.finish none (.ofHexes "../x" "#111111" none), ⟨"0x11", "0x11", "0x11", "1.000", "#111111"⟩,
    none⟩

/-- The manifests of that entry. -/
def writeUpwards : Action Unit := do
  writeText (Manifest.pathIn "out") Manifest.rootText
  [upwardsColor].forM (writeShown "out" (Manifest.paramsOf upwardsEntry))

open scoped Template.Engine in
/-- The manifest of the key `../x` stands beside the catalog. The options bring in no slash, so the
name of the key alone is to blame, which goes into the path as it is. -/
theorem escapes_of_slash : ∃ world',
    outcome (generate upwards upwardsEntry) ⟨⟨[], []⟩, []⟩ = (.ok (), world') ∧
      SlashFree (Stage.options? (some upwardsEntry)) ∧
      ¬ StaysInCatalog "out" ⟨[], []⟩ world'.tree := by
  have hspec : Spec.read upwards.token upwardsEntry =
      .ok ⟨"out", [⟨"../x", ⟨"color", .string "#111111", none⟩⟩], []⟩ := by
    decide +kernel
  have hcolors : Color.combine [⟨"../x", ⟨"color", .string "#111111", none⟩⟩] [] =
      .ok [.ofHexes "../x" "#111111" none] := by
    decide +kernel
  have hitems : ∀ shown ∈ [upwardsColor], shown.Holds := by
    simp only [List.forall_mem_singleton]
    exact ⟨by decide +kernel, by decide +kernel, by decide +kernel⟩
  have hwrites : (outcome writeUpwards ⟨⟨[], []⟩, []⟩).1.isOk = true := by
    decide +kernel
  have hbeside : (outcome writeUpwards ⟨⟨[], []⟩, []⟩).2.tree.fileAt?
      "out/../x.colorset/Contents.json" = some ["x.colorset", "Contents.json"] := by
    decide +kernel
  obtain ⟨world', hresult⟩ := exists_of_isOk hwrites
  simp only [hresult] at hbeside
  obtain ⟨log, hgenerate⟩ := generate_of_writes hspec hcolors rfl hitems hresult
  refine ⟨_, hgenerate, ⟨by rintro start ⟨⟩, by rintro ending ⟨⟩⟩, ?_⟩
  have hgrows : Grows ⟨[], []⟩ world'.tree := by
    have hfills := generate_fills upwards upwardsEntry ⟨⟨[], []⟩, []⟩
    rw [hgenerate] at hfills
    exact hfills.grows
  obtain ⟨content, hresolve⟩ := fileAt?_eq_some_iff.1 hbeside
  have hnode := (node?_of_resolve hresolve).2
  rw [node?_eq_head? _ (by simp)] at hnode
  have hchanged : world'.tree.slice ["x.colorset", "Contents.json"] ≠ [] := by
    intro hnone
    simp [hnone] at hnode
  have hfile : world'.tree.slice ["x.colorset", "Contents.json"] ≠ [.directory] := by
    intro hdirectory
    simp [hdirectory] at hnode
  intro hstays
  -- the file beside the catalog is new, so it would have to lie below `out`
  have hbelow := hstays.below (hgrows.linkless (linkless_of_entries (by simp))) hchanged hfile
  rw [hgrows.current] at hbelow
  revert hbelow
  decide

end DesignTokens.ColorSet

import DesignTokens.Proofs.Catalog.Pairing
import DesignTokens.Proofs.Template.Manifest
import DesignTokens.Proofs.Template.Source

/-!
# The colours of a catalog

What stands in a catalog when it was generated. A colour writes its manifest (`writeColor_spec`),
which stays as long as no later colour leads to the same file (`node?_of_writeColors`). The colours
are written by name, so the manifest of a name is that of the last colour of the name unless a
greater name leads to the same file (`manifest_of_generate`).
-/

set_option autoImplicit false

namespace DesignTokens.ColorSet

open DesignTokens.Action DesignTokens.FileTree DesignTokens.Template

/-- The path of the manifest of a colour. -/
def manifestPath (catalog : String) (color : Color) : String :=
  Manifest.pathIn (Path.join catalog (folder color))

/-- The colour and its manifest: it holds its channels, and they are what the manifest shows.
Success alone tells both, since the check comes before the manifest. -/
theorem writeColor_spec [Engine] {catalog : String} {params : Value} {color : Color}
    {world world' : World}
    (h : outcome (writeColor catalog params color) world = (.ok (), world')) :
    color.checkDecoded = .ok () ∧ ∃ rendered inside name,
      renderText BundledTemplate.colorContent (context params color) = .ok rendered ∧
        Written world.tree world'.tree (manifestPath catalog color) inside name
          rendered.toUTF8 := by
  rw [writeColor, outcome_bind_ok_iff] at h
  obtain ⟨⟨⟩, between, hstep, hrender⟩ := h
  obtain ⟨hcheck, rfl⟩ := outcome_ofExcept_ok_iff.1 hstep
  obtain ⟨rendered, inside, name, htext, hwritten⟩ :=
    TemplateSource.renderTo_bundled_spec hrender
  exact ⟨hcheck, rendered, inside, name, htext, hwritten⟩

section
variable {catalog : String} {params : Value} {colors : List Color} {world world' : World}

/-- Writing colours loses nothing of the tree. -/
theorem grows_writeColors [Engine]
    (h : outcome (colors.forM (writeColor catalog params)) world = (.ok (), world')) :
    Grows world.tree world'.tree := by
  induction colors generalizing world with
  | nil =>
    cases h
    exact Grows.refl _
  | cons color colors ih =>
    obtain ⟨between, hcolor, hcolors⟩ := outcome_forM_cons_ok_iff.1 h
    obtain ⟨-, _, _, _, -, hwritten⟩ := writeColor_spec hcolor
    exact hwritten.grows.trans (ih hcolors)

/-- A file stays as it is if no colour leads to it. The paths are followed in the tree at the end;
as the tree only grows, each leads there to the file that it was written to. -/
theorem node?_of_writeColors [Engine] {location : Location} {content : ByteArray}
    (h : outcome (colors.forM (writeColor catalog params)) world = (.ok (), world'))
    (hnode : world.tree.node? location = some (.file content))
    (hother : ∀ color ∈ colors,
      world'.tree.fileAt? (manifestPath catalog color) ≠ some location) :
    world'.tree.node? location = some (.file content) := by
  induction colors generalizing world with
  | nil =>
    cases h
    exact hnode
  | cons color colors ih =>
    obtain ⟨between, hcolor, hcolors⟩ := outcome_forM_cons_ok_iff.1 h
    obtain ⟨-, _, inside, name, -, hwritten⟩ := writeColor_spec hcolor
    have hgrows := grows_writeColors hcolors
    -- where this colour is written it can be found at the end
    obtain ⟨final, hfinal⟩ := hgrows.file hwritten.node?
    have hfound : world'.tree.fileAt? (manifestPath catalog color) = some (inside ++ [name]) :=
      fileAt?_eq_some_iff.2 ⟨final, resolve_file_again hgrows.keeps hwritten.resolve hfinal⟩
    have hne : location ≠ inside ++ [name] := by
      rintro rfl
      exact hother color (by simp) hfound
    exact ih hcolors (hwritten.file_of_ne hne hnode) fun other hmem => hother other (by simp [hmem])

end

/-- Warnings leave the files alone. -/
theorem outcome_warnMalformed (colors : List Color) (world : World) :
    ∃ log, outcome (warnMalformed colors) world = (.ok (), ⟨world.tree, log⟩) := by
  rw [warnMalformed]
  generalize colors.flatMap Color.malformedHexes = hexes
  induction hexes generalizing world with
  | nil => exact ⟨world.log, rfl⟩
  | cons hex hexes ih =>
    obtain ⟨log, hlater⟩ := ih { world with log := world.log ++
      [⟨.warning, "Ignoring malformed hex color '" ++ hex ++ "'"⟩] }
    exact ⟨log, outcome_forM_cons_ok_iff.2 ⟨_, outcome_log _ _ _, hlater⟩⟩

/-- The steps of a successful entry: the leaves, their colours, and the catalog of what the stages
make of them. -/
theorem generate_steps [Engine] {project : Project} {entry : Value} {world world' : World}
    (h : outcome (generate project entry) world = (.ok (), world')) :
    ∃ spec colors before after, Spec.read project.token entry = .ok spec ∧
      Color.combine spec.any spec.dark = .ok colors ∧ before.tree = world.tree ∧
      outcome (writeCatalog (Path.join project.directory spec.output) (Manifest.paramsOf entry)
        (colors.map (Color.finish (Stage.options? (some entry))))) before = (.ok (), after) ∧
      world'.tree = after.tree := by
  rw [generate] at h
  obtain ⟨spec, _, hread, hloaded⟩ := outcome_bind_ok_iff.1 h
  obtain ⟨hspec, rfl⟩ := outcome_ofExcept_ok_iff.1 hread
  obtain ⟨⟨⟩, _, hlog, hlogged⟩ := outcome_bind_ok_iff.1 hloaded
  cases hlog
  obtain ⟨colors, _, hcombine, hcombined⟩ := outcome_bind_ok_iff.1 hlogged
  obtain ⟨hcolors, rfl⟩ := outcome_ofExcept_ok_iff.1 hcombine
  obtain ⟨⟨⟩, before, hwarn, hwarned⟩ := outcome_bind_ok_iff.1 hcombined
  obtain ⟨⟨⟩, after, hwrite, hdone⟩ := outcome_bind_ok_iff.1 hwarned
  cases hdone
  rw [Color.run_stages] at hwrite
  obtain ⟨_, hwarning⟩ := outcome_warnMalformed colors _
  have htree := congrArg (fun result => result.2.tree) (hwarn.symm.trans hwarning)
  exact ⟨spec, colors, before, after, hspec, hcolors, htree, hwrite, rfl⟩

/-! ### Entries that are generated -/

/-- A colour with the channels that its manifest shows. -/
structure Shown where
  color : Color
  light : Rgba
  dark : Option Rgba

/-- The colour holds the channels. -/
def Shown.Holds (shown : Shown) : Prop :=
  shown.color.checkDecoded = .ok () ∧ shown.color.Decoded shown.light shown.dark

/-- Writes the manifest of a colour as the text that it is. -/
def writeShown (catalog : String) (params : Value) (shown : Shown) : Action Unit :=
  writeText (manifestPath catalog shown.color)
    (manifest (colorSpace params) shown.light shown.dark)

/-- The manifests of colours can be rendered if their texts can be written. With this, a run on
fixed colours is evaluated without running the template language: the texts are known, and only
files are written. -/
theorem writeColors_of_writeShown [Engine] {catalog : String} {params : Value} {items : List Shown}
    (hitems : ∀ shown ∈ items, shown.Holds) {tree : FileTree} {log : List LogLine}
    {world' : World}
    (h : outcome (items.forM (writeShown catalog params)) ⟨tree, log⟩ = (.ok (), world'))
    (log' : List LogLine) :
    ∃ log'', outcome ((items.map (·.color)).forM (writeColor catalog params)) ⟨tree, log'⟩ =
      (.ok (), ⟨world'.tree, log''⟩) := by
  induction items generalizing tree log log' with
  | nil =>
    cases h
    exact ⟨log', rfl⟩
  | cons shown items ih =>
    obtain ⟨⟨between, log₁⟩, hshown, hlater⟩ := outcome_forM_cons_ok_iff.1 h
    obtain ⟨hcheck, hdecoded⟩ := hitems shown (by simp)
    have hrender : renderText (BundledTemplate.content .color) (context params shown.color) =
        .ok (manifest (colorSpace params) shown.light shown.dark) :=
      renderText_color params hdecoded
    -- a manifest that renders is written as the text that it renders to
    have hwrite : ∃ log₂, outcome (writeColor catalog params shown.color) ⟨tree, log'⟩ =
        (.ok (), ⟨between, log₂⟩) := by
      rw [writeColor, hcheck, outcome_bind, outcome_ofExcept_ok]
      have hbundled := TemplateSource.outcome_renderTo_bundled hrender
        (manifestPath catalog shown.color) ⟨tree, log'⟩
      rw [outcome_writeText_log hshown] at hbundled
      exact ⟨_, hbundled⟩
    obtain ⟨log₂, hwrite⟩ := hwrite
    obtain ⟨log'', hdone⟩ := ih (fun other hmem => hitems other (by simp [hmem])) hlater log₂
    exact ⟨log'', outcome_forM_cons_ok_iff.2 ⟨_, hwrite, hdone⟩⟩

/-- The manifest at the root can be rendered if its text can be written. -/
theorem writeRoot_of_writeText [Engine] {catalog : String} {tree : FileTree} {log : List LogLine}
    {world' : World}
    (h : outcome (writeText (Manifest.pathIn catalog) Manifest.rootText) ⟨tree, log⟩ =
      (.ok (), world'))
    (log' : List LogLine) :
    ∃ log'', outcome (Manifest.writeRoot catalog) ⟨tree, log'⟩ =
      (.ok (), ⟨world'.tree, log''⟩) := by
  have hrender : renderText (BundledTemplate.content .info) [] = .ok Manifest.rootText :=
    Manifest.renderText_info
  have hbundled := TemplateSource.outcome_renderTo_bundled hrender (Manifest.pathIn catalog)
    ⟨tree, log'⟩
  rw [outcome_writeText_log h] at hbundled
  exact ⟨_, hbundled⟩

/-- An entry is generated if its leaves make colours with channels and the manifests of all of them
can be written. -/
theorem generate_of_writes [Engine] {project : Project} {entry : Value} {spec : Spec}
    {colors : List Color} {items : List Shown} {world world' : World}
    (hspec : Spec.read project.token entry = .ok spec)
    (hcolors : Color.combine spec.any spec.dark = .ok colors)
    (hfinish : colors.map (Color.finish (Stage.options? (some entry))) = items.map (·.color))
    (hitems : ∀ shown ∈ items, shown.Holds)
    (h : outcome (do
      writeText (Manifest.pathIn (Path.join project.directory spec.output)) Manifest.rootText
      items.forM (writeShown (Path.join project.directory spec.output)
        (Manifest.paramsOf entry))) world = (.ok (), world')) :
    ∃ log, outcome (generate project entry) world = (.ok (), ⟨world'.tree, log⟩) := by
  obtain ⟨⟨⟩, ⟨rooted, _⟩, hroot, hwrites⟩ := outcome_bind_ok_iff.1 h
  let resolved : World := { world with log := world.log ++ [⟨.debug, "Resolved " ++
    toString spec.any.length ++ " any and " ++ toString spec.dark.length ++
    " dark color values"⟩] }
  -- each step adds lines to the log, so the later ones start with another log
  obtain ⟨log₁, hwarn⟩ := outcome_warnMalformed colors resolved
  obtain ⟨log₂, hrooted⟩ := writeRoot_of_writeText hroot log₁
  obtain ⟨log₃, hdone⟩ := writeColors_of_writeShown hitems hwrites log₂
  rw [← hfinish, ← Color.run_stages] at hdone
  have hcatalog : outcome (writeCatalog (Path.join project.directory spec.output)
      (Manifest.paramsOf entry) (Stage.run Color.stages (some entry) colors))
        ⟨resolved.tree, log₁⟩ = (.ok (), ⟨world'.tree, log₃⟩) := by
    rw [writeCatalog]
    exact outcome_bind_ok_iff.2 ⟨(), _, hrooted, hdone⟩
  rw [generate]
  refine ⟨log₃ ++ [⟨.info, "Generated " ++ toString colors.length ++ " colors in " ++
    Path.join project.directory spec.output⟩], ?_⟩
  refine outcome_bind_ok_iff.2 ⟨spec, world, outcome_ofExcept_ok_iff.2 ⟨hspec, rfl⟩, ?_⟩
  refine outcome_bind_ok_iff.2 ⟨(), resolved, outcome_log _ _ _, ?_⟩
  refine outcome_bind_ok_iff.2
    ⟨colors, resolved, outcome_ofExcept_ok_iff.2 ⟨hcolors, rfl⟩, ?_⟩
  refine outcome_bind_ok_iff.2 ⟨(), _, hwarn, ?_⟩
  exact outcome_bind_ok_iff.2 ⟨(), _, hcatalog, outcome_log _ _ _⟩

/-- The path of the manifest of a name in the catalog of an entry. -/
def Spec.manifestPath (spec : Spec) (project : Project) (entry : Value) (name : String) :
    String :=
  Manifest.pathIn (Path.join (Path.join project.directory spec.output)
    (Color.finalName (Stage.options? (some entry)) name ++ ".colorset"))

/-- The names of the leaves of an entry. -/
def Spec.names (spec : Spec) : List String :=
  (spec.any ++ spec.dark).map (·.name)

/-- The manifest of a colour shows its channels at the end, unless a later one leads to the same
file. -/
theorem read_manifest [Engine] {catalog : String} {params : Value} {before after : List Color}
    {options : Option Value} {name hex : String} {darkHex : Option String}
    {world world' : World}
    (h : outcome ((before ++ Color.finish options (.ofHexes name hex darkHex) :: after).forM
      (writeColor catalog params)) world = (.ok (), world'))
    (hother : ∀ color ∈ after, world'.tree.fileAt? (manifestPath catalog color) ≠
      world'.tree.fileAt?
        (manifestPath catalog (Color.finish options (.ofHexes name hex darkHex)))) :
    ∃ light dark, Color.Channels hex darkHex light dark ∧
      world'.tree.read (manifestPath catalog (Color.finish options (.ofHexes name hex darkHex))) =
        .ok (manifest (colorSpace params) light dark).toUTF8 := by
  obtain ⟨start, -, hrest⟩ := outcome_forM_append_ok_iff.1 h
  obtain ⟨shown, hshown, hlater⟩ := outcome_forM_cons_ok_iff.1 hrest
  obtain ⟨hcheck, rendered, inside, final, hrender, hfile⟩ := writeColor_spec hshown
  obtain ⟨light, dark, hchannels, hdecoded⟩ := Color.decoded_of_checkDecoded hcheck
  rw [renderText_color _ hdecoded] at hrender
  cases hrender
  have hgrows := grows_writeColors hlater
  -- the path leads to this file at the end, whatever was written over it
  obtain ⟨last, hlast⟩ := hgrows.file hfile.node?
  have hfound := resolve_file_again hgrows.keeps hfile.resolve hlast
  have hstays := node?_of_writeColors hlater hfile.node? fun other hmem hsame =>
    hother other hmem (hsame.trans (fileAt?_eq_some_iff.2 ⟨last, hfound⟩).symm)
  exact ⟨light, dark, hchannels,
    read_eq_ok_iff.2 ⟨_, resolve_file_again hgrows.keeps hfile.resolve hstays⟩⟩

/-- The manifest of a name shows the light and the dark leaf that count for it, each with its own
channels, unless the manifest of a greater name is the same file. -/
theorem manifest_of_generate [Engine] {project : Project} {entry : Value} {world world' : World}
    (h : outcome (generate project entry) world = (.ok (), world')) :
    ∃ spec, Spec.read project.token entry = .ok spec ∧
      ∀ name ∈ spec.names,
        (∀ other ∈ spec.names, name < other →
          world'.tree.fileAt? (spec.manifestPath project entry other) ≠
            world'.tree.fileAt? (spec.manifestPath project entry name)) →
        ∃ leaf hex light dark, Color.lightOf spec.any spec.dark name = some leaf ∧
          leaf.value.string? = some hex ∧
          Color.Channels hex (Color.darkHex? hex (Color.darkOf spec.any spec.dark name))
            light dark ∧
          world'.tree.read (spec.manifestPath project entry name) =
            .ok (manifest (colorSpace (Manifest.paramsOf entry)) light dark).toUTF8 := by
  obtain ⟨spec, colors, start, finish, hspec, hcolors, -, hwrite, htree⟩ := generate_steps h
  refine ⟨spec, hspec, ?_⟩
  intro name hname hgreater
  rw [htree] at hgreater ⊢
  obtain ⟨before, color, after, rfl, hafter, leaf, hleaf, hcolor⟩ :=
    Color.combine_last hcolors hname
  obtain ⟨hex, hhex, rfl⟩ := Color.ofEntries_eq_ok_iff.1 hcolor
  obtain ⟨⟨⟩, rooted, -, hwritten⟩ := outcome_bind_ok_iff.1 hwrite
  rw [List.map_append, List.map_cons] at hwritten
  obtain ⟨light, dark, hchannels, hread⟩ := read_manifest hwritten (by
    intro other hmem
    obtain ⟨raw, hraw, rfl⟩ := List.mem_map.1 hmem
    have hnames : raw.name ∈ spec.names :=
      Color.name_of_combine hcolors raw (by simp [hraw])
    exact hgreater raw.name hnames (hafter raw hraw))
  exact ⟨leaf, hex, light, dark, hleaf, hhex, hchannels, hread⟩

/-! ### Repeated names -/

/-- A leaf with a colour. -/
def colorLeaf (hex : String) : Value :=
  .object [("type", .string "color"), ("value", .string hex)]

/-- A document in which two light leaves and a dark one are called `x`. -/
def repeatedName : Project :=
  ⟨.ofMembers [
    ("d", .object [("x", colorLeaf "#222222")]),
    ("l", .object [
      ("a", .object [("x", colorLeaf "#111111")]),
      ("b", .object [("x", colorLeaf "#111111")])])], ""⟩

/-- An entry for the colours of that document. -/
def repeatedEntry : Value :=
  .object [
    ("adaptive", .object [("keys", .array [.string "d"])]),
    ("input", .object [("keys", .array [.string "l"])]),
    ("output", .string "out")]

/-- The leaves of that entry. -/
def repeatedSpec : Spec :=
  ⟨"out", [⟨"x", ⟨"color", .string "#111111", none⟩⟩, ⟨"x", ⟨"color", .string "#111111", none⟩⟩],
    [⟨"x", ⟨"color", .string "#222222", none⟩⟩]⟩

/-- The section of the fixture is read as this specification. -/
theorem read_repeatedSpec : Spec.read repeatedName.token repeatedEntry = .ok repeatedSpec := by
  decide +kernel

/-- The colours of that entry, with what their manifests show. -/
def repeatedColors : List Shown :=
  let ones : Rgba := ⟨"0x11", "0x11", "0x11", "1.000", "#111111"⟩
  let twos : Rgba := ⟨"0x22", "0x22", "0x22", "1.000", "#222222"⟩
  [⟨.finish none (.ofHexes "x" "#111111" (some "#222222")), ones, some twos⟩,
    ⟨.finish none (.ofHexes "x" "#111111" none), ones, none⟩]

/-- A run over the repeated name succeeds. Both colours of the name are written, the second one over
the first. -/
theorem generate_repeated [Engine] : ∃ world',
    outcome (generate repeatedName repeatedEntry) ⟨⟨[], []⟩, []⟩ = (.ok (), world') := by
  have hcolors : Color.combine repeatedSpec.any repeatedSpec.dark =
      .ok [.ofHexes "x" "#111111" (some "#222222"), .ofHexes "x" "#111111" none] := by
    decide +kernel
  have hfinish : [Color.ofHexes "x" "#111111" (some "#222222"), .ofHexes "x" "#111111" none].map
      (Color.finish (Stage.options? (some repeatedEntry))) = repeatedColors.map (·.color) := by
    decide +kernel
  have hitems : ∀ shown ∈ repeatedColors, shown.Holds := by
    simp only [repeatedColors, List.forall_mem_cons]
    exact ⟨⟨by decide +kernel, by decide +kernel, by decide +kernel⟩,
      ⟨by decide +kernel, by decide +kernel, by decide +kernel⟩, by simp⟩
  have hwrites : (outcome (do
      writeText (Manifest.pathIn (Path.join repeatedName.directory repeatedSpec.output))
        Manifest.rootText
      repeatedColors.forM (writeShown (Path.join repeatedName.directory repeatedSpec.output)
        (Manifest.paramsOf repeatedEntry))) ⟨⟨[], []⟩, []⟩).1.isOk = true := by
    decide +kernel
  obtain ⟨world', hresult⟩ := exists_of_isOk hwrites
  obtain ⟨log, hgenerate⟩ := generate_of_writes read_repeatedSpec hcolors hfinish hitems hresult
  exact ⟨_, hgenerate⟩

open scoped Engine in
/-- The conclusion holds of a document in which a name is repeated. The result is applied to the run
over that document, which was shown to succeed. -/
theorem manifest_of_generate_repeated : ∃ world',
    outcome (generate repeatedName repeatedEntry) ⟨⟨[], []⟩, []⟩ = (.ok (), world') ∧
      ∃ spec, Spec.read repeatedName.token repeatedEntry = .ok spec ∧
        ∀ name ∈ spec.names,
          (∀ other ∈ spec.names, name < other →
            world'.tree.fileAt? (spec.manifestPath repeatedName repeatedEntry other) ≠
              world'.tree.fileAt? (spec.manifestPath repeatedName repeatedEntry name)) →
          ∃ leaf hex light dark, Color.lightOf spec.any spec.dark name = some leaf ∧
            leaf.value.string? = some hex ∧
            Color.Channels hex (Color.darkHex? hex (Color.darkOf spec.any spec.dark name))
              light dark ∧
            world'.tree.read (spec.manifestPath repeatedName repeatedEntry name) =
              .ok (manifest (colorSpace (Manifest.paramsOf repeatedEntry)) light dark).toUTF8 := by
  obtain ⟨world', h⟩ := generate_repeated
  exact ⟨world', h, manifest_of_generate h⟩

/-! ### Leaves that are lost -/

/-- The manifest at a path shows a text as the light appearance. -/
def ShowsLight (tree : FileTree) (path hex : String) : Prop :=
  ∃ space light dark, Rgba.components? hex = some light ∧
    tree.read path = .ok (manifest space light dark).toUTF8

/-- The manifest at a path shows a text as the dark appearance. -/
def ShowsDark (tree : FileTree) (path hex : String) : Prop :=
  ∃ space light dark, Rgba.components? hex = some dark ∧
    tree.read path = .ok (manifest space light (some dark)).toUTF8

/-- No leaf is lost: each light leaf is shown in the manifest of its name, and each dark leaf as
well, as the dark appearance if a light leaf of the name has another text and as the light one if
there is no light leaf of the name. -/
structure ShowsLeaves (tree : FileTree) (project : Project) (entry : Value) (spec : Spec) :
    Prop where
  light : ∀ leaf ∈ spec.any, ∀ hex, leaf.entry.value.string? = some hex →
    ShowsLight tree (spec.manifestPath project entry leaf.name) hex
  dark : ∀ leaf ∈ spec.dark, ∀ hex, leaf.entry.value.string? = some hex →
    ∀ other ∈ spec.any, other.name = leaf.name → other.entry.value.string? ≠ some hex →
      ShowsDark tree (spec.manifestPath project entry leaf.name) hex
  single : ∀ leaf ∈ spec.dark, ∀ hex, leaf.entry.value.string? = some hex →
    (∀ other ∈ spec.any, other.name ≠ leaf.name) →
      ShowsLight tree (spec.manifestPath project entry leaf.name) hex

/-- The dark channels stand in a manifest. -/
theorem mem_manifest_of_dark (space : String) (light dark : Rgba) {char : Char}
    (h : char ∈ dark.red.toList) : char ∈ (manifest space light (some dark)).toList := by
  have hpiece : dark.red ∈ appearancePieces space dark := by simp [appearancePieces]
  have htext : char ∈ (darkText space (some dark)).toList := by
    rw [darkText, String.toList_join, List.mem_flatMap]
    exact ⟨dark.red, List.mem_cons_of_mem _ hpiece, h⟩
  rw [manifest, String.toList_join, List.mem_flatMap]
  exact ⟨_, List.mem_cons_of_mem _ (List.mem_append_right _ List.mem_cons_self), htext⟩

open scoped Engine in
/-- The dark leaf of a name with two light leaves is lost. The first light leaf takes it, and the
manifest of the second one, without it, is what stands in the end. -/
theorem lost_of_repeated : ∃ world' spec,
    outcome (generate repeatedName repeatedEntry) ⟨⟨[], []⟩, []⟩ = (.ok (), world') ∧
      Spec.read repeatedName.token repeatedEntry = .ok spec ∧
      ¬ ShowsLeaves world'.tree repeatedName repeatedEntry spec := by
  obtain ⟨world', h⟩ := generate_repeated
  refine ⟨world', repeatedSpec, h, read_repeatedSpec, ?_⟩
  intro hshows
  obtain ⟨space, light, dark, hdark, hread⟩ := hshows.dark
    ⟨"x", ⟨"color", .string "#222222", none⟩⟩ (by decide) "#222222" rfl
    ⟨"x", ⟨"color", .string "#111111", none⟩⟩ (by decide) rfl (by decide)
  -- the colour of the second light leaf is written last, and it has no dark leaf
  obtain ⟨spec, colors, start, finish, hspec, hcolors, -, hwrite, htree⟩ := generate_steps h
  cases read_repeatedSpec.symm.trans hspec
  have hcombine : Color.combine repeatedSpec.any repeatedSpec.dark =
      .ok ([.ofHexes "x" "#111111" (some "#222222")] ++ [.ofHexes "x" "#111111" none]) := by
    decide +kernel
  cases hcombine.symm.trans hcolors
  obtain ⟨⟨⟩, rooted, -, hwritten⟩ := outcome_bind_ok_iff.1 hwrite
  rw [List.map_append] at hwritten
  obtain ⟨light', dark', hchannels, hread'⟩ := read_manifest hwritten (by simp)
  have hnone : dark' = none := by simpa using hchannels.dark.symm
  subst hnone
  have hread'' : world'.tree.read (repeatedSpec.manifestPath repeatedName repeatedEntry "x") =
      .ok (manifest (colorSpace (Manifest.paramsOf repeatedEntry)) light' none).toUTF8 := by
    rw [htree]
    exact hread'
  have hsame := Except.ok.inj (hread.symm.trans hread'')
  rw [String.toUTF8_eq_toByteArray, String.toUTF8_eq_toByteArray, String.toByteArray_inj] at hsame
  -- the digit two stands in the text of the dark leaf only
  have hones : light' = ⟨"0x11", "0x11", "0x11", "1.000", "#111111"⟩ :=
    Option.some.inj (hchannels.light.symm.trans (by decide +kernel))
  have htwos : dark = ⟨"0x22", "0x22", "0x22", "1.000", "#222222"⟩ :=
    Option.some.inj (hdark.symm.trans (by decide +kernel))
  have hmem : '2' ∈ (manifest space light (some dark)).toList :=
    mem_manifest_of_dark space light dark (by rw [htwos]; decide +kernel)
  rw [hsame, hones, manifest, darkText, String.toList_join] at hmem
  revert hmem
  decide +kernel
end DesignTokens.ColorSet

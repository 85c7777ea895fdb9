import DesignTokens.Proofs.Failure.Blame
import DesignTokens.Proofs.Generate.ColorFailures
import DesignTokens.Proofs.Generate.Footprint
import DesignTokens.Proofs.Template.Declarations

/-!
# Bundled templates always render

A catalog never fails over its manifests, and a file that is made from one of the bundled
templates for declarations never fails over this template. `bundled_templates_render` states both
for runs: a failure that blames a template comes from the section `files`, and the template is
neither of these two.

The proof goes through `Blames`, from the single manifest (`blames_writeColor`,
`blames_writeImage`) over the entries and sections to the run. A colour can be written only if it
passes the check of its channels, which is what the template of colours needs.
-/

set_option autoImplicit false

namespace DesignTokens

open Template

variable {allowed : String → Prop}

/-! ### Rendering -/

/-- Loading a source blames no template: only a file is read for it. -/
theorem blames_load (source : TemplateSource) : Blames allowed source.load := by
  cases source with
  | bundled template => exact Blames.pure _
  | file path => exact Blames.readText path

/-- Rendering into a file fails over the template only if the text does not render. -/
theorem blames_renderTo_of_silent [Engine] {source : TemplateSource} {context : Members}
    {output : String}
    (h : ∀ text world world', source.load.outcome world = (.ok text, world') →
      Blames allowed (Action.ofExcept (render source.name text context))) :
    Blames allowed (source.renderTo context output) := by
  unfold TemplateSource.renderTo
  refine Blames.bind (Blames.log _ _) fun _ => ?_
  refine Action.failsOnly_bind_of_ok (blames_load source) ?_
  intro text world world' hload
  exact Blames.bind (h text world world' hload) fun rendered => Blames.writeText _ _

/-- Rendering into a file blames at most the source of the template. -/
theorem blames_renderTo [Engine] {source : TemplateSource} (context : Members) (output : String)
    (h : allowed source.name) : Blames allowed (source.renderTo context output) := by
  apply blames_renderTo_of_silent
  intro text _ _ _
  unfold render
  cases renderText text context with
  | ok rendered => exact Blames.pure _
  | error fault =>
    apply Action.failsOnly_throw
    intro template htemplate
    cases htemplate
    exact h

/-- A bundled template that renders is not blamed. -/
theorem blames_renderTo_bundled [Engine] {template : BundledTemplate} {context : Members}
    {text : String}
    (output : String) (h : renderText template.content context = .ok text) :
    Blames allowed ((TemplateSource.bundled template).renderTo context output) := by
  apply blames_renderTo_of_silent
  intro content world world' hload
  cases hload
  unfold render
  rw [h]
  exact Blames.pure _

/-! ### Catalogs -/

/-- The manifest at the root of a catalog blames no template, since its template always renders. -/
theorem blames_writeRoot [Engine] (catalog : String) :
    Blames allowed (Manifest.writeRoot catalog) :=
  blames_renderTo_bundled _ Manifest.renderText_info

namespace ColorSet

/-- A colour without channels is a problem of its text. -/
theorem silent_checkDecoded (color : Color) : Silent color.checkDecoded := by
  have happearance (appearance : Members) : Silent (color.checkAppearance appearance) := by
    unfold Color.checkAppearance
    split
    · exact silent_ok _
    · exact silent_error rfl
  unfold Color.checkDecoded
  apply silent_bind (happearance _)
  intro _
  cases color.dark with
  | none => exact silent_ok _
  | some dark => exact happearance dark

/-- Putting colours together fails over a leaf without a text only, and then it names the leaf. The
failures of both steps are told by the same function. -/
theorem silent_combine (any dark : List TokenValue) : Silent (Color.combine any dark) := by
  have hentries (name : String) (any : Entry) (dark : Option Entry) :
      Silent (Color.ofEntries name any dark) := by
    unfold Color.ofEntries
    cases any.value.string? with
    | none => exact silent_error rfl
    | some hex => exact silent_ok _
  have hpair (any : List TokenValue) :
      ∀ dark : List (String × Entry), Silent (Color.pair dark any) := by
    induction any with
    | nil => exact fun dark => silent_ok _
    | cons token tokens ih =>
      intro dark
      refine silent_bind (hentries _ _ _) fun color => ?_
      exact silent_bind (ih _) fun _ => silent_ok _
  refine silent_bind (hpair any _) fun paired => ?_
  refine silent_bind (silent_mapM fun entry => hentries _ _ _) fun single => ?_
  exact silent_ok _

/-- Reading an entry for colours fails over the keys that it lacks or the values that it names. -/
theorem silent_read (token : DesignToken) (entry : Value) : Silent (Spec.read token entry) := by
  have hresolve (block : Value) (usePrefix : Bool) : Silent (resolve token block usePrefix) :=
    silent_bind (silent_required _ _ _) fun keys => silent_values token keys usePrefix
  refine silent_bind (silent_required _ _ _) fun output => ?_
  refine silent_bind (silent_required _ _ _) fun input => ?_
  refine silent_bind (hresolve _ _) fun any => ?_
  cases adaptiveKey.optional? Shape.mapping (some entry) with
  | none => exact silent_ok _
  | some members => exact silent_bind (hresolve _ _) fun dark => silent_ok _

/-- The manifest of a colour renders once the check of its channels has passed. A colour whose text
does not split fails at the check, which names the text and no template. -/
theorem blames_writeColor [Engine] (catalog : String) (params : Value) {options : Option Value}
    {color : Color} (hraw : color.Raw) :
    Blames allowed (writeColor catalog params (color.finish options)) := by
  obtain ⟨hex, dark, hcolor⟩ := hraw
  rw [hcolor]
  refine Action.failsOnly_bind_of_ok (Blames.ofExcept (silent_checkDecoded _)) ?_
  intro _ world world' hcheck
  obtain ⟨hchecked, -⟩ := Action.outcome_ofExcept_ok_iff.1 hcheck
  obtain ⟨light, darkRgba, -, hdecoded⟩ := Color.decoded_of_checkDecoded hchecked
  exact blames_renderTo_bundled _ (renderText_color params hdecoded)

/-- An entry for colours blames no template. Reading the entry is silent, the manifest of the
catalog always renders, and so do those of the colours once they are checked. -/
theorem blames_generate [Engine] (project : Project) (entry : Value) :
    Blames allowed (generate project entry) := by
  refine Blames.bind (Blames.ofExcept (silent_read _ _)) fun spec => ?_
  refine Blames.bind (Blames.log _ _) fun _ => ?_
  refine Action.failsOnly_bind_of_ok (Blames.ofExcept (silent_combine _ _)) ?_
  intro colors world world' hcombine
  obtain ⟨hcolors, -⟩ := Action.outcome_ofExcept_ok_iff.1 hcombine
  refine Blames.bind (Blames.forM fun _ _ => Blames.log _ _) fun _ => ?_
  refine Blames.bind ?_ fun _ => Blames.log _ _
  refine Blames.bind (blames_writeRoot _) fun _ => ?_
  rw [Color.run_stages]
  apply Blames.forM
  intro color hmem
  obtain ⟨raw, hraw, rfl⟩ := List.mem_map.1 hmem
  exact blames_writeColor _ _ (Color.raw_of_combine hcolors raw hraw)

end ColorSet

namespace ImageSet

/-- The directory of dark files is missing or named by something that is no text. -/
theorem silent_darkDirectory? (entry : Value) : Silent (darkDirectory? entry) := by
  unfold darkDirectory?
  split
  · exact silent_ok _
  · exact silent_ok _
  · exact silent_ok _
  · exact silent_map _ (silent_required _ _ _)
  · exact silent_error rfl

/-- An image blames no template: its files are copied, and its manifest always renders. A file that
cannot be copied is the fault of the file system. -/
theorem blames_writeImage [Engine] (catalog : String) (params : Value) (properties : Members)
    (image : Image) : Blames allowed (writeImage catalog params properties image) := by
  have hrender : Blames allowed ((TemplateSource.bundled .image).renderTo
      (context params properties image)
      (Manifest.pathIn (Path.join catalog image.imageset))) :=
    blames_renderTo_bundled _ (renderText_image params properties image)
  unfold writeImage
  refine Blames.bind (Blames.replaceFile _ _) fun _ => ?_
  dsimp only
  split
  · exact Blames.bind (Blames.replaceFile _ _) fun _ => hrender
  · exact hrender

/-- A catalog of images blames no template: its root manifest always renders, and so do those of its
images. -/
theorem blames_writeCatalog [Engine] (catalog : String) (params : Value) (properties : Members)
    (images : List Image) : Blames allowed (writeCatalog catalog params properties images) :=
  Blames.bind (blames_writeRoot _) fun _ =>
    Blames.forM fun image _ => blames_writeImage _ _ _ image

/-- An entry for images blames no template, whatever files are in its folders. -/
theorem blames_generate [Engine] (project : Project) (entry : Value) :
    Blames allowed (generate project entry) := by
  unfold generate
  refine Blames.bind (Blames.ofExcept (silent_required _ _ _)) fun output => ?_
  refine Blames.bind (Blames.ofExcept (silent_required _ _ _)) fun input => ?_
  refine Blames.bind (Blames.listFiles _) fun any => ?_
  refine Blames.bind (Blames.ofExcept (silent_darkDirectory? _)) fun directory => ?_
  dsimp only
  split
  · refine Blames.bind (Blames.listFiles _) fun dark => ?_
    refine Blames.bind (Blames.log _ _) fun _ => ?_
    exact Blames.bind (blames_writeCatalog _ _ _ _) fun _ => Blames.log _ _
  · refine Blames.bind (Blames.pure _) fun dark => ?_
    refine Blames.bind (Blames.log _ _) fun _ => ?_
    exact Blames.bind (blames_writeCatalog _ _ _ _) fun _ => Blames.log _ _

end ImageSet

/-- The shape of a list of entries is checked without a look at templates. -/
theorem silent_ofEntries (key : String) (generate : Project → Value → Action Unit)
    (project : Project) (content : Value) :
    Silent (Generator.ofEntries key generate project content) := by
  unfold Generator.ofEntries
  apply silent_map
  unfold specList
  split
  · split
    · exact silent_ok _
    · exact silent_error rfl
  · exact silent_error rfl

/-- A list of entries is generated one entry after the other. -/
theorem Generator.ofEntries_eq_ok_iff {key : String} {generate : Project → Value → Action Unit}
    {project : Project} {content : Value} {action : Action Unit} :
    ofEntries key generate project content = .ok action ↔
      ∃ entries, specList key content = .ok entries ∧ entries.forM (generate project) = action := by
  unfold ofEntries
  cases specList key content with
  | error problem => simp [Except.map]
  | ok entries => simp [Except.map]

/-- The action of a list of entries blames what its entries blame. -/
theorem blames_ofEntries {key : String} {generate : Project → Value → Action Unit}
    {project : Project} {content : Value} {action : Action Unit}
    (hentry : ∀ entry, Blames allowed (generate project entry))
    (h : Generator.ofEntries key generate project content = .ok action) :
    Blames allowed action := by
  obtain ⟨entries, -, rfl⟩ := Generator.ofEntries_eq_ok_iff.1 h
  exact Blames.forM fun entry _ => hentry entry

namespace AssetCatalog

/-- Each generator of a section of an asset catalog is one of the two. -/
theorem generators_cases [Engine] {name : String} {generator : Generator}
    (h : generators.lookup name = some generator) :
    name = "colors" ∧ generator = ColorSet.generator ∨
      name = "images" ∧ generator = ImageSet.generator := by
  have hmem := Keyed.mem_of_lookup h
  simp only [generators, List.mem_cons, Prod.mk.injEq, List.not_mem_nil, or_false] at hmem
  exact hmem

/-- A generator of one of the two kinds fails without blame, and so does its action. -/
theorem blames_generateSection [Engine] (project : Project) (name : String) (content : Value) :
    Blames allowed (generateSection project (name, content)) := by
  simp only [generateSection]
  split
  · exact Blames.throw (by simp [Problem.template?])
  · rename_i generator hgenerator
    rcases generators_cases hgenerator with ⟨-, rfl⟩ | ⟨-, rfl⟩
    · refine Action.failsOnly_bind_of_ok (Blames.ofExcept (silent_ofEntries _ _ _ _)) ?_
      intro action world world' h
      exact Blames.within (blames_ofEntries (ColorSet.blames_generate project)
        (Action.outcome_ofExcept_ok_iff.1 h).1)
    · refine Action.failsOnly_bind_of_ok (Blames.ofExcept (silent_ofEntries _ _ _ _)) ?_
      intro action world world' h
      exact Blames.within (blames_ofEntries (ImageSet.blames_generate project)
        (Action.outcome_ofExcept_ok_iff.1 h).1)

/-- The shape of a catalog is checked without a word about templates. -/
theorem silent_generator [Engine] (project : Project) (content : Value) :
    Silent (generator project content) := by
  unfold generator
  split
  · exact silent_ok _
  · exact silent_error rfl

/-- An asset catalog blames no template. -/
theorem blames_generator [Engine] {project : Project} {content : Value} {action : Action Unit}
    (h : generator project content = .ok action) : Blames allowed action := by
  unfold generator at h
  split at h
  · cases h
    exact Blames.forM fun item _ => blames_generateSection project item.1 item.2
  · cases h

end AssetCatalog

/-! ### Templated files -/

namespace TemplatedFile

/-- A template other than the two bundled ones for declarations. -/
def NoDeclarations (template : String) : Prop :=
  template ≠ BundledTemplate.constants.name ∧ template ≠ BundledTemplate.colors.name

instance : DecidablePred NoDeclarations :=
  fun _ => inferInstanceAs (Decidable (_ ∧ _))

/-- Bundled names hold no slash. -/
theorem slash_notMem_name :
    ∀ name ∈ BundledTemplate.all.map (·.name), '/' ∉ name.toList := by
  decide +kernel

/-- The path of a template file is no bundled name: it is the reference itself, which is not
bundled, or it holds a slash. -/
theorem join_ne_name {reference directory : String}
    (h : BundledTemplate.find? reference = none) {template : BundledTemplate}
    (hmem : template ∈ BundledTemplate.all) : Path.join directory reference ≠ template.name := by
  have hslash : '/' ∉ template.name.toList :=
    slash_notMem_name _ (List.mem_map_of_mem hmem)
  unfold Path.join
  split
  · have hne := List.find?_eq_none.1 h template hmem
    simp only [decide_eq_true_eq] at hne
    exact fun heq => hne heq.symm
  · split
    · rename_i hlast
      intro heq
      apply hslash
      rw [← heq, String.toList_append]
      exact List.mem_append_left _ (List.mem_of_getLast? (by simpa using hlast))
    · intro heq
      apply hslash
      rw [← heq]
      simp

/-- A reference that leads nowhere is a missing template, which blames none. -/
theorem blames_resolve (reference directory : String) :
    Blames allowed (TemplateSource.resolve reference directory) := by
  unfold TemplateSource.resolve
  split
  · exact Blames.pure _
  · refine Blames.bind (Blames.ask _) fun isFile => ?_
    split
    · exact Blames.pure _
    · exact Blames.throw (by simp [Problem.template?])

/-- Whatever an output asks for, it is not blamed on a template for declarations. If its reference
is the name of one, the bundled template is taken, which always renders. If not, a failure names
another template, even if it is a file of the same name in some folder. -/
theorem blames_renderTo_resolved [Engine] {reference directory : String} {source : TemplateSource}
    {world world' : World} (inputs : List (Value × List TokenValue)) (output : Value)
    (path : String)
    (h : (TemplateSource.resolve reference directory).outcome world = (.ok source, world')) :
    Blames NoDeclarations (source.renderTo (context (shownAll inputs) output) path) := by
  rcases TemplateSource.resolve_cases h with ⟨template, hmem, rfl⟩ | ⟨hfind, rfl⟩
  · simp only [BundledTemplate.all, List.mem_cons, List.not_mem_nil, or_false] at hmem
    rcases hmem with rfl | rfl | rfl | rfl | rfl
    · exact blames_renderTo _ _ (by decide +kernel)
    · exact blames_renderTo _ _ (by decide +kernel)
    · exact blames_renderTo _ _ (by decide +kernel)
    · exact blames_renderTo_bundled _ (renderText_constants output inputs)
    · exact blames_renderTo_bundled _ (renderText_colors output inputs)
  · exact blames_renderTo _ _
      ⟨join_ne_name hfind (by simp [BundledTemplate.all]),
        join_ne_name hfind (by simp [BundledTemplate.all])⟩

/-- An output is blamed on no template for declarations. Which template it names decides this, and
any other one may be to blame. -/
theorem blames_renderOutput [Engine] (directory : String) (inputs : List (Value × List TokenValue))
    (output : Value) : Blames NoDeclarations (renderOutput directory (shownAll inputs) output) := by
  refine Blames.bind (Blames.ofExcept (silent_required _ _ _)) fun reference => ?_
  refine Blames.bind (Blames.ofExcept (silent_required _ _ _)) fun destination => ?_
  refine Action.failsOnly_bind_of_ok (blames_resolve _ _) ?_
  intro source world world' hresolve
  refine Blames.bind (Blames.within ?_) fun _ => Blames.log _ _
  exact blames_renderTo_resolved inputs output _ hresolve

/-- An output that names a template for declarations is blamed on no template at all. -/
theorem blames_renderOutput_declarations [Engine] {output : Value} {reference : String}
    (hreference : templateKey.required Shape.string (some output) = .ok reference)
    (hdeclarations : ¬ NoDeclarations reference) (directory : String)
    (inputs : List (Value × List TokenValue)) :
    Blames allowed (renderOutput directory (shownAll inputs) output) := by
  have hcases : reference = BundledTemplate.constants.name ∨
      reference = BundledTemplate.colors.name := by
    by_contra hneither
    exact hdeclarations (not_or.1 hneither)
  refine Action.failsOnly_bind_of_ok (Blames.ofExcept (silent_required _ _ _)) ?_
  intro found world world' hfound
  obtain ⟨heq, -⟩ := Action.outcome_ofExcept_ok_iff.1 hfound
  rw [hreference] at heq
  cases heq
  refine Blames.bind (Blames.ofExcept (silent_required _ _ _)) fun destination => ?_
  refine Action.failsOnly_bind_of_ok (blames_resolve _ _) ?_
  intro source before after hsource
  refine Blames.bind (Blames.within ?_) fun _ => Blames.log _ _
  -- both templates render whatever the inputs hold
  rcases hcases with rfl | rfl
  · have hfind : BundledTemplate.find? BundledTemplate.constants.name =
        some BundledTemplate.constants := by
      simp [BundledTemplate.find?, BundledTemplate.all, BundledTemplate.info,
        BundledTemplate.color, BundledTemplate.image, BundledTemplate.constants]
    rw [TemplateSource.resolve, hfind] at hsource
    cases hsource
    exact blames_renderTo_bundled _ (renderText_constants output inputs)
  · have hfind : BundledTemplate.find? BundledTemplate.colors.name =
        some BundledTemplate.colors := by
      simp [BundledTemplate.find?, BundledTemplate.all, BundledTemplate.info,
        BundledTemplate.color, BundledTemplate.image, BundledTemplate.constants,
        BundledTemplate.colors]
    rw [TemplateSource.resolve, hfind] at hsource
    cases hsource
    exact blames_renderTo_bundled _ (renderText_colors output inputs)

/-- An input fails over its keys or over the values that they lead to. -/
theorem silent_resolve (token : DesignToken) (input : Value) : Silent (resolve token input) := by
  refine silent_bind (silent_required _ _ _) fun keys => ?_
  exact silent_bind (silent_values _ _ _) fun values => silent_ok _

/-- So resolving it blames no template. -/
theorem blames_resolveInput (token : DesignToken) (input : Value) :
    Blames allowed (resolveInput token input) := by
  refine Blames.bind (Blames.ofExcept (silent_resolve _ _)) fun _ => ?_
  exact Blames.bind (Blames.log _ _) fun _ => Blames.pure _

/-- Inputs resolve to what templates see of inputs with their values. So the results about bundled
templates apply to whatever inputs an entry has. -/
theorem shownAll_of_resolveInput {token : DesignToken} {inputs found : List Value}
    {world world' : World}
    (h : Action.outcome (inputs.mapM (resolveInput token)) world = (.ok found, world')) :
    ∃ data, found = shownAll data := by
  have hround : ∀ input world value world',
      Action.outcome (resolveInput token input) world = (.ok value, world') →
        ∃ input values, value = shown input values := by
    intro input world value world' hinput
    unfold resolveInput at hinput
    rw [Action.outcome_bind_ok_iff] at hinput
    obtain ⟨resolved, between, -, hinput⟩ := hinput
    cases hinput
    exact ⟨input, _, rfl⟩
  have hshown := Action.forall_mem_of_mapM_ok hround h
  clear h
  induction found with
  | nil => exact ⟨[], rfl⟩
  | cons value found ih =>
    obtain ⟨input, values, rfl⟩ := hshown value (by simp)
    obtain ⟨data, rfl⟩ := ih fun value hmem => hshown value (by simp [hmem])
    exact ⟨(input, values) :: data, rfl⟩

/-- A list that is missing blames no template. -/
theorem silent_listUnder (key : String) (entry : Value) : Silent (listUnder key entry) := by
  intro problem h
  obtain ⟨-, rfl⟩ := listUnder_eq_error_iff.1 h
  rfl

/-- An entry for templated files is blamed on no template for declarations. -/
theorem blames_generate [Engine] (project : Project) (entry : Value) :
    Blames NoDeclarations (generate project entry) := by
  refine Blames.bind (Blames.ofExcept (silent_listUnder _ _)) fun inputs => ?_
  refine Blames.bind (Blames.ofExcept (silent_listUnder _ _)) fun outputs => ?_
  refine Action.failsOnly_bind_of_ok
    (Blames.mapM fun input _ => blames_resolveInput project.token input) ?_
  intro resolved world world' hresolved
  obtain ⟨data, rfl⟩ := shownAll_of_resolveInput hresolved
  exact Blames.forM fun output _ => blames_renderOutput _ data output

end TemplatedFile

/-! ### Runs -/

namespace Config

/-- A failure that blames a template comes from the section `files` and blames no template for
declarations. -/
def FromFiles (failure : Failure) : Prop :=
  ∀ template ∈ failure.template?,
    failure.contexts.head? = some "Failed to generate section 'files'" ∧
      TemplatedFile.NoDeclarations template

/-- What blames nothing is fine. -/
theorem fromFiles_of_blames {α : Type} {action : Action α}
    (h : Blames (fun _ => False) action) : action.FailsOnly FromFiles := by
  refine Action.failsOnly_mono h ?_
  intro failure hnone template hmem
  exact (hnone template hmem).elim

/-- Each generator of a section is that of asset catalogs or that of templated files. -/
theorem generators_cases [Engine] {name : String} {generator : Generator}
    (h : generators.lookup name = some generator) :
    name = "xcassets" ∧ generator = AssetCatalog.generator ∨
      name = "files" ∧ generator = TemplatedFile.generator := by
  have hmem := Keyed.mem_of_lookup h
  simp only [generators, List.mem_cons, Prod.mk.injEq, List.not_mem_nil, or_false] at hmem
  exact hmem

/-- The section of asset catalogs is blamed on no template at all, whatever it holds. -/
theorem blames_assetCatalog [Engine] (project : Project) (path : String) (content : Value) :
    Blames allowed (generateSection project path ("xcassets", content)) := by
  refine Blames.bind (Blames.log _ _) fun _ => ?_
  refine Action.failsOnly_bind_of_ok
    (Blames.within (Blames.ofExcept (AssetCatalog.silent_generator project content))) ?_
  intro action world world' h
  have hgenerator := (Action.outcome_ofExcept_ok_iff.1 (Action.outcome_within_ok_iff.1 h)).1
  exact Blames.within (AssetCatalog.blames_generator hgenerator)

/-- Whatever section is generated, a template is blamed from the section `files` only, and it is
none of those for declarations. -/
theorem fromFiles_generateSection [Engine] (project : Project) (path name : String)
    (content : Value) :
    (generateSection project path (name, content)).FailsOnly FromFiles := by
  simp only [generateSection]
  split
  · exact fromFiles_of_blames (Blames.log _ _)
  · rename_i generator hgenerator
    refine Action.failsOnly_bind (fromFiles_of_blames (Blames.log _ _)) fun _ => ?_
    -- a catalog blames nothing, so only the section `files` is left
    rcases generators_cases hgenerator with ⟨-, rfl⟩ | ⟨rfl, rfl⟩
    · refine Action.failsOnly_bind_of_ok (fromFiles_of_blames (Blames.within
        (Blames.ofExcept (AssetCatalog.silent_generator project content)))) ?_
      intro action world world' h
      have haction := (Action.outcome_ofExcept_ok_iff.1 (Action.outcome_within_ok_iff.1 h)).1
      exact fromFiles_of_blames (Blames.within (AssetCatalog.blames_generator haction))
    · refine Action.failsOnly_bind_of_ok (fromFiles_of_blames (Blames.within
        (Blames.ofExcept (silent_ofEntries _ _ _ _)))) ?_
      intro action world world' h
      have haction := (Action.outcome_ofExcept_ok_iff.1 (Action.outcome_within_ok_iff.1 h)).1
      apply Action.failsOnly_within
      refine Action.failsOnly_mono
        (blames_ofEntries (TemplatedFile.blames_generate project) haction) ?_
      intro failure hallowed template hmem
      exact ⟨rfl, hallowed template hmem⟩

/-- Loading a configuration blames no template: it may be missing, hard to read, or no mapping. -/
theorem blames_load (path : String) : Blames allowed (load path) := by
  have hparse (text : String) : Silent (parse path text) := by
    unfold parse
    split
    · exact silent_error rfl
    · exact silent_ok _
    · exact silent_error rfl
  have hrest : Blames allowed (do
      let config ← Action.ofExcept (parse path (← Action.readText path))
      Action.log .debug ("Loaded configuration from " ++ path ++ " (" ++
        toString config.sections.length ++ " sections)")
      return config) :=
    Blames.bind (Blames.readText path) fun text =>
      Blames.bind (Blames.ofExcept (hparse text)) fun _ =>
        Blames.bind (Blames.log _ _) fun _ => Blames.pure _
  unfold load
  refine Blames.bind (Blames.ask _) fun present => ?_
  dsimp only
  split
  · exact Blames.bind (Blames.throw rfl) fun _ => hrest
  · exact hrest

end Config

/-- Loading a token document blames no template either. -/
theorem DesignToken.blames_load (path : String) : Blames allowed (load path) := by
  have hdecode (text : String) : Silent (decodeText path text) := by
    unfold decodeText
    cases Value.decode text with
    | ok value => exact silent_ok _
    | error fault => exact silent_error rfl
  have hdecoded (value : Value) : Silent (ofDecoded path value) := by
    unfold ofDecoded
    split
    · exact silent_ok _
    · exact silent_error rfl
  have hrest : Blames allowed (do
      let value ← Action.ofExcept (decodeText path (← Action.readText path))
      Action.log .debug ("Loaded design token from " ++ path)
      Action.ofExcept (ofDecoded path value)) :=
    Blames.bind (Blames.readText path) fun text =>
      Blames.bind (Blames.ofExcept (hdecode text)) fun value =>
        Blames.bind (Blames.log _ _) fun _ => Blames.ofExcept (hdecoded value)
  unfold load
  refine Blames.bind (Blames.ask _) fun present => ?_
  dsimp only
  split
  · exact Blames.bind (Blames.throw rfl) fun _ => hrest
  · exact hrest

namespace Run

/-- So the same holds of a run, which loads its documents and generates sections. -/
theorem fromFiles_execute [Engine] (run : Run) (directory : String) :
    (run.execute directory).FailsOnly Config.FromFiles := by
  unfold execute
  refine Action.failsOnly_bind (Config.fromFiles_of_blames
    (Blames.mapM fun path _ => Config.blames_load _)) fun configs => ?_
  refine Action.failsOnly_bind (Config.fromFiles_of_blames
    (DesignToken.blames_load _)) fun token => ?_
  refine Action.failsOnly_bind (Config.fromFiles_of_blames (Blames.log _ _)) fun _ => ?_
  refine Action.failsOnly_bind ?_ fun _ => Config.fromFiles_of_blames (Blames.log _ _)
  apply Action.failsOnly_forM
  intro config _
  apply Action.failsOnly_forM
  intro item _
  exact Config.fromFiles_generateSection _ _ item.1 item.2

end Run

/-- No run fails over a bundled template where the program itself chooses what the template sees.
Asset catalogs are never blamed on a template, an output that names a template for declarations
neither, and a run that is blamed on a template comes from the section `files` and from a template
other than these. -/
theorem bundled_templates_render [Engine] :
    (∀ project path content world failure world',
      (Config.generateSection project path ("xcassets", content)).outcome world =
          (.error failure, world') →
        failure.template? = none) ∧
      (∀ directory inputs output reference world failure world',
        TemplatedFile.templateKey.required Shape.string (some output) = .ok reference →
          ¬ TemplatedFile.NoDeclarations reference →
            (TemplatedFile.renderOutput directory (TemplatedFile.shownAll inputs) output).outcome
                world = (.error failure, world') →
              failure.template? = none) ∧
      ∀ (run : Run) (directory : String) (world : World) (failure : Failure) (world' : World)
        (template : String),
        (run.execute directory).outcome world = (.error failure, world') →
          failure.template? = some template →
            failure.contexts.head? = some "Failed to generate section 'files'" ∧
              TemplatedFile.NoDeclarations template := by
  have hnone (failure : Failure) (h : ∀ template ∈ failure.template?, False) :
      failure.template? = none :=
    Option.eq_none_iff_forall_not_mem.2 h
  refine ⟨?_, ?_, ?_⟩
  · intro project path content world failure world' h
    exact hnone failure (Config.blames_assetCatalog project path content world failure world' h)
  · intro directory inputs output reference world failure world' hreference hdeclarations h
    exact hnone failure (TemplatedFile.blames_renderOutput_declarations hreference hdeclarations
      directory inputs world failure world' h)
  · intro run directory world failure world' template h htemplate
    exact Run.fromFiles_execute run directory world failure world' h template htemplate

section
open ColorSet

/-- What is written of a document with two colours, the second of which is too short. -/
def writesShort : List (Action Unit) :=
  [Action.writeText "out/Contents.json" Manifest.rootText,
    writeShown "out" (Manifest.paramsOf ungroupedEntry) lettersColor]

/-- The colours fail with the second one, and the manifest of the first one is written by then. -/
theorem effect_generate_short [Engine] :
    Action.effect (ColorSet.generate short ungroupedEntry) ⟨[], []⟩ =
      Action.andThen (Action.inTurn writesShort ⟨[], []⟩) fun tree =>
        (.error (.ofProblem (.malformedColorValue "y" "#12345")), tree) := by
  obtain ⟨hspec, hcolors⟩ := read_short
  have hraw := Color.raw_of_combine hcolors
  obtain ⟨shown, hshown, hfirst⟩ := effect_writeColor "out" (Manifest.paramsOf ungroupedEntry)
    (Stage.options? (some ungroupedEntry)) (hraw _ List.mem_cons_self) (by decide +kernel)
  have hletters : Shows (Stage.options? (some ungroupedEntry)) (.ofHexes "x" "#GGGGGG" none)
      lettersColor :=
    ⟨by decide +kernel, "#GGGGGG", none, Color.texts_ofHexes _ _ _, components?_letters, rfl⟩
  obtain rfl := hshown.unique hletters
  have hsecond (tree : FileTree) :
      Action.effect (writeColor "out" (Manifest.paramsOf ungroupedEntry)
        (.finish (Stage.options? (some ungroupedEntry)) (.ofHexes "y" "#12345" none))) tree =
        (.error (.ofProblem (.malformedColorValue "y" "#12345")), tree) :=
    effect_writeColor_malformed _ _ _ (hraw _ (by simp)) (by decide +kernel) tree
  have hwrites (tree : FileTree) : Action.inTurn
      [Action.writeText (Manifest.pathIn (Path.join short.directory "out")) Manifest.rootText,
        writeColor "out" (Manifest.paramsOf ungroupedEntry)
          (.finish (Stage.options? (some ungroupedEntry)) (.ofHexes "x" "#GGGGGG" none))] tree =
        Action.inTurn writesShort tree := by
    simp only [writesShort, Action.inTurn, hfirst]
    rfl
  rw [effect_generate hspec hcolors, ← hwrites, ← Action.inTurn_append_error hsecond]
  rfl

/-- A section with these colours. -/
def shortSection : Value :=
  .object [("colors", .array [ungroupedEntry])]

/-- The section fails in the words of the second colour, with the names of both sections around
them. -/
theorem effect_shortSection [Engine] : ∃ tree,
    Action.effect (Config.generateSection short "c" ("xcassets", shortSection)) ⟨[], []⟩ =
        (.error ⟨["Failed to generate section 'xcassets'", "Failed to generate xcassets 'colors'"],
          .known (.malformedColorValue "y" "#12345")⟩, tree) ∧
      tree.isFile "out/x.colorset/Contents.json" = true := by
  have hwritten : (Action.inTurn writesShort ⟨[], []⟩).1.isOk = true ∧
      (Action.inTurn writesShort ⟨[], []⟩).2.isFile "out/x.colorset/Contents.json" = true := by
    decide +kernel
  have hsection : Action.effect (AssetCatalog.generateSection short
      ("colors", .array [ungroupedEntry])) ⟨[], []⟩ =
        Action.underContext "Failed to generate xcassets 'colors'"
          (Action.andThen (Action.effect (ColorSet.generate short ungroupedEntry) ⟨[], []⟩)
            (Action.inTurn [])) := by
    have hentries : specList "colors" (.array [ungroupedEntry]) = .ok [ungroupedEntry] := rfl
    have hcatalog : EntryKind.colors.InCatalog := by simp [EntryKind.InCatalog]
    have hkey := AssetCatalog.generateSection_key hcatalog short (.array [ungroupedEntry])
    have hlog (entry : Value) (world : World) : Action.IgnoresLog world (generate short entry) :=
      Action.inherited_ignoresLog.generateColors (Action.serves_ignoresLog world.tree _)
    rw [EntryKind.key] at hkey
    rw [hkey, hentries, Action.effect_value_bind, Action.effect_within, EntryKind.generate,
      Action.effect_forM hlog, List.map_cons, List.map_nil, Action.inTurn]
    rfl
  rcases hturn : Action.inTurn writesShort ⟨[], []⟩ with ⟨failure | ⟨⟩, tree⟩
  · rw [hturn] at hwritten
    cases hwritten.1
  refine ⟨tree, ?_, by simpa [hturn] using hwritten.2⟩
  rw [shortSection, Config.effect_generateCatalog, List.map_cons, List.map_nil, Action.inTurn,
    hsection, effect_generate_short, hturn]
  rfl

end

/-- An output below the file `x`. -/
def belowFile : Value :=
  .object [("output", .string "x/y"), ("template", .string BundledTemplate.colors.name)]

/-- The text for that output is rendered and cannot be written. The failure comes behind the
rendering, and the tree is as it was. -/
theorem effect_belowFile [Engine] :
    Action.effect (TemplatedFile.renderOutput "" (TemplatedFile.shownAll []) belowFile)
        Run.unknownVariableTree =
      (.error ⟨["Failed to generate x/y"], .plain "Path exists but is not a directory: x"⟩,
        Run.unknownVariableTree) := by
  have htarget : TemplatedFile.target "" Run.unknownVariableTree belowFile =
      .ok ("x/y", .bundled .colors) := by
    decide +kernel
  have hrender : TemplateSource.renderedIn Run.unknownVariableTree (.bundled .colors)
      (TemplatedFile.context (TemplatedFile.shownAll []) belowFile) =
        .ok (TemplatedFile.colorsText []) := by
    have htext : Template.render BundledTemplate.colors.name BundledTemplate.colors.content
        (TemplatedFile.context (TemplatedFile.shownAll []) belowFile) =
          .ok (TemplatedFile.colorsText []) :=
      Template.render_eq_ok_iff.2 (TemplatedFile.renderText_colors belowFile [])
    simp only [TemplateSource.renderedIn, TemplateSource.textIn, TemplateSource.name, bind,
      Except.bind, htext, Result.mapError_ok]
  have hwrite (text : String) : Action.effect (Action.writeText (Path.join "" "x/y") text)
      Run.unknownVariableTree =
        (.error (.ofMessage "Path exists but is not a directory: x"), Run.unknownVariableTree) :=
    rfl
  have hrendered : TemplatedFile.rendered "" (TemplatedFile.shownAll []) Run.unknownVariableTree
      belowFile = .ok ("x/y", TemplatedFile.colorsText []) := by
    simp only [TemplatedFile.rendered, htarget, hrender, bind, Except.bind, Result.mapError_ok]
    rfl
  rw [TemplatedFile.effect_renderOutput, hrendered]
  show Action.underContext _ (Action.effect _ _) = _
  rw [hwrite]
  rfl

open scoped Engine in
/-- Failures of all three kinds exist, two of them behind templates that were rendered: a
catalog with a colour that is too short, an output below a file, and a run that is blamed on the
file `x`. -/
theorem bundled_templates_render_failures :
    (∃ failure world',
        (Config.generateSection ColorSet.short "c" ("xcassets", shortSection)).outcome
          ⟨⟨[], []⟩, []⟩ = (.error failure, world') ∧
        world'.tree.isFile "out/x.colorset/Contents.json" = true ∧ failure.template? = none) ∧
      (∃ failure world',
        (TemplatedFile.renderOutput "" (TemplatedFile.shownAll []) belowFile).outcome
          ⟨Run.unknownVariableTree, []⟩ = (.error failure, world') ∧
        failure.cause = .plain "Path exists but is not a directory: x" ∧
        failure.template? = none) ∧
      ∃ failure world', (Run.execute ⟨["c"], "t"⟩ "").outcome ⟨Run.unknownVariableTree, []⟩ =
          (.error failure, world') ∧ failure.template? = some "x" ∧
        failure.contexts.head? = some "Failed to generate section 'files'" ∧
        TemplatedFile.NoDeclarations "x" := by
  obtain ⟨hcatalog, houtput, hrun⟩ := bundled_templates_render
  refine ⟨?catalog, ?output, ?run⟩
  case catalog =>
    obtain ⟨tree, heffect, hfile⟩ := effect_shortSection
    obtain ⟨world', h, rfl⟩ := Action.exists_outcome heffect
    exact ⟨_, world', h, hfile, hcatalog _ _ _ _ _ _ h⟩
  case output =>
    obtain ⟨world', h, -⟩ := Action.exists_outcome effect_belowFile
    exact ⟨_, world', h, rfl, houtput "" [] belowFile BundledTemplate.colors.name _ _ _ rfl
      (by decide +kernel) h⟩
  case run =>
    have hblamed : blamed? ((Run.execute ⟨["c"], "t"⟩ "").outcome ⟨Run.unknownVariableTree, []⟩).1 =
        some "x" := by
      decide +kernel
    rcases h : (Run.execute ⟨["c"], "t"⟩ "").outcome ⟨Run.unknownVariableTree, []⟩ with
      ⟨result, world'⟩
    rw [h] at hblamed
    cases result with
    | ok done => cases hblamed
    | error failure => exact ⟨failure, world', rfl, hblamed, hrun _ _ _ _ _ _ h hblamed⟩

end DesignTokens

import DesignTokens.Proofs.Catalog.Image
import DesignTokens.Proofs.Template.Manifest
import DesignTokens.Proofs.Generate.Uses
import DesignTokens.Proofs.Template.Source

/-!
# What generators inherit from their steps

What a generator does depends on the engine of templates, so the properties here are about what an
action does under each engine (`Engine → Action α`) when it starts in a world. The `first` engine
decides how the action goes on, and a property may compare it with others or not (`Single`).

Such a property is `Inherited` if it holds of whatever leaves the files alone and if sequences and
contexts keep it. It holds of a generator as soon as it holds of the steps that render templates
and list, write and copy the files that the generator uses (`Serves`): one lemma for each
generator, up to all configurations (`Inherited.generateAll`) and a run (`Inherited.execute`).

`Config.Reaches` says which entry of which section is generated from which tree. It follows the
loops, so an entry behind a failure is never reached.
-/

set_option autoImplicit false

namespace DesignTokens

open DesignTokens.Action DesignTokens.FileTree
open DesignTokens.Template (Engine)

/-! ### Requirements -/

namespace Action

/-- Fails unless the answer to a question about the files is yes. -/
def require (question : FileTree → Bool) (failure : Failure) : Action Unit := do
  if ← ask question then pure () else throw failure

/-- What follows a requirement may as well stand in the branch where it is met. -/
theorem require_bind {α : Type} (question : FileTree → Bool) (failure : Failure)
    (next : Unit → Action α) :
    (require question failure >>= next) = (do
      if ← ask question then next () else throw failure) := by
  rw [require, bind_assoc]
  congr 1
  funext answer
  cases answer <;> rfl

/-- A requirement has no effect on the world, whether it is met or not. -/
@[simp]
theorem outcome_require_snd (question : FileTree → Bool) (failure : Failure) (world : World) :
    (outcome (require question failure) world).2 = world := by
  rw [require, outcome_bind, outcome_ask]
  cases question world.tree <;> rfl

/-- A requirement succeeds exactly if it is met, and the world stays as it is. -/
theorem outcome_require_ok_iff {question : FileTree → Bool} {failure : Failure}
    {world world' : World} :
    outcome (require question failure) world = (.ok (), world') ↔
      question world.tree = true ∧ world' = world := by
  rw [require, outcome_bind, outcome_ask]
  cases hanswer : question world.tree with
  | false => simp
  | true => simp [eq_comm]

/-- What goes on with a changed result may as well change the result itself. -/
theorem ofExcept_map_bind {α β γ : Type} (result : Except Problem α) (change : α → β)
    (next : β → Action γ) :
    (Action.ofExcept (result.map change) >>= next) =
      (Action.ofExcept result >>= fun a => next (change a)) := by
  cases result <;> rfl

/-- The same below a context. -/
theorem within_ofExcept_map_bind {α β γ : Type} (context : String) (result : Except Problem α)
    (change : α → β) (next : β → Action γ) :
    (Action.within context (Action.ofExcept (result.map change)) >>= next) =
      (Action.within context (Action.ofExcept result) >>= fun a => next (change a)) := by
  cases result <;> rfl

end Action

/-- A reference that names no bundled template is a requirement: there has to be a file at its
path. -/
theorem TemplateSource.resolve_eq {reference : String}
    (h : BundledTemplate.find? reference = none) (directory : String) :
    resolve reference directory = (do
      require (·.isFile (Path.join directory reference)) (.ofProblem (.missingTemplate reference))
      return .file (Path.join directory reference)) := by
  rw [resolve, h, require_bind]

/-- Loading a configuration is a requirement, a reading and a parsing, and then a line of the
log. -/
theorem Config.load_eq (path : String) : load path = (do
    require (·.present path) (.ofProblem (.missingConfiguration path))
    let config ← Action.ofExcept (parse path (← Action.readText path))
    Action.log .debug ("Loaded configuration from " ++ path ++ " (" ++
      toString config.sections.length ++ " sections)")
    return config) := by
  rw [load, require_bind]
  congr 1
  funext present
  cases present <;> rfl

/-- Loading a token document is a requirement, a reading and a decoding, and then a line of the
log. -/
theorem DesignToken.load_eq (path : String) : load path = (do
    require (·.present path) (.ofProblem (.missingToken path))
    let value ← Action.ofExcept (decodeText path (← Action.readText path))
    Action.log .debug ("Loaded design token from " ++ path)
    Action.ofExcept (ofDecoded path value)) := by
  rw [load, require_bind]
  congr 1
  funext present
  cases present <;> rfl

/-! ### Loops -/

/-- A loop that starts with a tree comes to the round over an item, and has the tree `mid` then. -/
def Rounds {α : Type} (body : α → Action Unit) (items : List α) (tree : FileTree) (item : α)
    (mid : FileTree) : Prop :=
  ∃ before after log log', items = before ++ item :: after ∧
    outcome (before.forM body) ⟨tree, log⟩ = (.ok (), ⟨mid, log'⟩)

/-- A loop comes to its own items only. -/
theorem Rounds.mem {α : Type} {body : α → Action Unit} {items : List α} {tree mid : FileTree}
    {item : α} (h : Rounds body items tree item mid) : item ∈ items := by
  obtain ⟨before, after, _, _, rfl, -⟩ := h
  simp

/-- It comes to the first item with the tree that it starts with, as no round is behind it yet. -/
theorem Rounds.first {α : Type} (body : α → Action Unit) (item : α) (items : List α)
    (tree : FileTree) : Rounds body (item :: items) tree item tree :=
  ⟨[], items, [], [], rfl, rfl⟩

/-- The rounds behind the first are those of the loop over the other items. -/
theorem Rounds.later {α : Type} {body : α → Action Unit} {first item : α} {items : List α}
    {world world' : World} {mid : FileTree} (hfirst : outcome (body first) world = (.ok (), world'))
    (h : ∃ before after log', items = before ++ item :: after ∧
      outcome (before.forM body) world' = (.ok (), ⟨mid, log'⟩)) :
    ∃ before after log', first :: items = before ++ item :: after ∧
      outcome (before.forM body) world = (.ok (), ⟨mid, log'⟩) := by
  obtain ⟨before, after, log', rfl, hrun⟩ := h
  exact ⟨first :: before, after, log', rfl, outcome_forM_cons_ok_iff.2 ⟨world', hfirst, hrun⟩⟩

/-! ### Inherited properties -/

section
variable [first : Engine]

/-- A property of what actions do in the worlds that they start in, which holds of actions that
leave the files alone and is kept by sequences and contexts. -/
structure Inherited (P : ∀ {α : Type}, World → (Engine → Action α) → Prop) : Prop where
  pure : ∀ {α : Type} (a : α) (world : World), P world fun _ => (Pure.pure a : Action α)
  throw : ∀ {α : Type} (failure : Failure) (world : World),
    P world fun _ => (MonadExcept.throw failure : Action α)
  log : ∀ (level : LogLevel) (message : String) (world : World),
    P world fun _ => Action.log level message
  require : ∀ {question : FileTree → Bool}, Persists question → ∀ failure world,
    P world fun _ => Action.require question failure
  bind : ∀ {α β : Type} {action : Engine → Action α} {next : Engine → α → Action β} {world : World},
    P world action →
      (∀ a world', outcome (action first) world = (.ok a, world') →
        P world' fun engine => next engine a) →
      P world fun engine => action engine >>= next engine
  within : ∀ {α : Type} {context : String} {action : Engine → Action α} {world : World},
    P world action → P world fun engine => Action.within context (action engine)

/-- A property of single actions, as one of what is done under the first engine. -/
abbrev Single (Q : ∀ {α : Type}, World → Action α → Prop) {α : Type} (world : World)
    (action : Engine → Action α) : Prop :=
  Q world (action first)

/-- Whatever an action comes to, the tree behind it stands in a relation to the one in front of it.
That is inherited if the relation is a preorder. -/
theorem Inherited.of_preorder {R : FileTree → FileTree → Prop} (hrefl : ∀ tree, R tree tree)
    (htrans : ∀ {old mid new}, R old mid → R mid new → R old new) :
    Inherited (Single fun world action => R world.tree (outcome action world).2.tree) where
  pure _ world := hrefl world.tree
  throw _ world := hrefl world.tree
  log _ _ world := hrefl world.tree
  require {question} _ failure world := by
    change R world.tree (outcome (Action.require question failure) world).2.tree
    rw [outcome_require_snd]
    exact hrefl world.tree
  bind := tree_bind (R := R) htrans
  within := by
    intro α context action world haction
    change R world.tree (outcome (Action.within context (action first)) world).2.tree
    rw [outcome_within_snd]
    exact haction

end

/-- A file was found in a directory that is listed. -/
def Listed (tree : FileTree) (uses : List FileUse) (source : String) : Prop :=
  ∃ directory, .lists directory ∈ uses ∧ source ∈ ImageSet.filesIn tree tree directory

/-- A source of a template that is bundled, or a file that is read. -/
def TemplateSource.Used (uses : List FileUse) : TemplateSource → Prop
  | .bundled template => template ∈ BundledTemplate.all
  | .file path => .reads path ∈ uses

/-- The property holds of each step that uses files. What is copied was found in `tree`. -/
structure Serves (P : ∀ {α : Type}, World → (Engine → Action α) → Prop) (tree : FileTree)
    (uses : List FileUse) : Prop where
  renders : ∀ {source}, source.Used uses → ∀ context world,
    P world fun _ => TemplateSource.rendered source context
  lists : ∀ {directory}, .lists directory ∈ uses → ∀ world,
    P world fun _ => listFiles directory
  writes : ∀ {path}, .writes path ∈ uses → ∀ content world,
    P world fun _ => writeText path content
  copies : ∀ {source destination}, Listed tree uses source → .writes destination ∈ uses →
    ∀ world, P world fun _ => replaceFile source destination

/-- Steps that use less. -/
theorem Serves.mono {P : ∀ {α : Type}, World → (Engine → Action α) → Prop} {tree : FileTree}
    {uses part : List FileUse} (h : Serves P tree uses) (hpart : ∀ use ∈ part, use ∈ uses) :
    Serves P tree part where
  renders {source} hsource := h.renders (by
    cases source with
    | bundled template => exact hsource
    | file path => exact hpart _ hsource)
  lists hdirectory := h.lists (hpart _ hdirectory)
  writes hpath := h.writes (hpart _ hpath)
  copies := fun ⟨directory, hlists, hsource⟩ hdestination =>
    h.copies ⟨directory, hpart _ hlists, hsource⟩ (hpart _ hdestination)

/-! ### Images of an entry -/

namespace ImageSet

/-- What follows the listing of the directories. -/
def generateListed [Engine] (project : Project) (entry : Value) (output : String)
    (any dark : List String) :
    Action Unit := do
  Action.log .debug ("Found " ++ toString any.length ++ " images and " ++ toString dark.length ++
    " dark images")
  let images := Stage.run Image.stages (some entry) (Image.combine any dark)
  let catalog := Path.join project.directory output
  let properties := (propertiesKey.optional? Shape.mapping (some entry)).getD []
  writeCatalog catalog (Manifest.paramsOf entry) properties images
  Action.log .info ("Generated " ++ toString images.length ++ " images in " ++ catalog)

/-- The files of the directory for dark files, if there is one. -/
def listDark (project : Project) (entry : Value) : Action (List String) := do
  match ← Action.ofExcept (darkDirectory? entry) with
  | some directory => Action.listFiles (Path.join project.directory directory)
  | none => pure []

/-- An entry for images reads what it names, lists its directories, and generates from what it has
found. -/
theorem generate_eq [Engine] (project : Project) (entry : Value) : generate project entry = (do
    let output ← Action.ofExcept (Manifest.outputKey.required Shape.string (some entry))
    let input ← Action.ofExcept (inputKey.required Shape.string (some entry))
    let any ← Action.listFiles (Path.join project.directory input)
    let dark ← listDark project entry
    generateListed project entry output any dark) := by
  unfold generate listDark generateListed
  dsimp only
  congr 1
  funext output
  congr 1
  funext input
  congr 1
  funext any
  rw [bind_assoc]
  congr 1
  funext directory
  cases directory <;> rfl

/-- A listing leaves the world alone and gives the files that are in the directory. -/
theorem filesIn_of_listFiles {directory : String} {world world' : World} {files : List String}
    (h : outcome (listFiles directory) world = (.ok files, world')) :
    files = filesIn world.tree world.tree directory ∧
      (∃ location, world.tree.directoryAt? directory = some location) ∧ world' = world := by
  obtain ⟨location, hlocation, rfl, rfl⟩ := outcome_listFiles_ok_iff.1 h
  exact ⟨by simp only [filesIn, hlocation], ⟨location, hlocation⟩, rfl⟩

/-- A listing of dark files gives those of the directory that the entry names, or none if it names
no directory. -/
theorem filesIn_of_listDark {project : Project} {entry : Value} {world world' : World}
    {files : List String} (h : outcome (listDark project entry) world = (.ok files, world')) :
    ∃ adaptive, darkDirectory? entry = .ok adaptive ∧
      files = ((adaptive.map (Path.join project.directory)).map
        (filesIn world.tree world.tree)).getD [] ∧
      (∀ directory ∈ adaptive, ∃ location,
        world.tree.directoryAt? (Path.join project.directory directory) = some location) ∧
      world' = world := by
  obtain ⟨adaptive, _, hadaptive, hlist⟩ := outcome_bind_ok_iff.1 h
  obtain ⟨hdirectory, rfl⟩ := outcome_ofExcept_ok_iff.1 hadaptive
  refine ⟨adaptive, hdirectory, ?_⟩
  cases adaptive with
  | none =>
    cases hlist
    exact ⟨rfl, by simp, rfl⟩
  | some directory =>
    obtain ⟨hfiles, hlocation, hworld⟩ := filesIn_of_listFiles hlist
    exact ⟨hfiles, by simpa using hlocation, hworld⟩

/-- An entry that was generated names an output and directories that are there, and the files in
them were made into images. -/
theorem generate_spec [Engine] {project : Project} {entry : Value} {world world' : World}
    (h : outcome (generate project entry) world = (.ok (), world')) :
    ∃ output input adaptive,
      Manifest.outputKey.required Shape.string (some entry) = .ok output ∧
      inputKey.required Shape.string (some entry) = .ok input ∧
      darkDirectory? entry = .ok adaptive ∧
      (∀ directory ∈ input :: adaptive.toList, ∃ location,
        world.tree.directoryAt? (Path.join project.directory directory) = some location) ∧
      outcome (generateListed project entry output
        (filesIn world.tree world.tree (Path.join project.directory input))
        (((adaptive.map (Path.join project.directory)).map
          (filesIn world.tree world.tree)).getD [])) world = (.ok (), world') := by
  rw [generate_eq] at h
  obtain ⟨output, _, hread, hbelow⟩ := outcome_bind_ok_iff.1 h
  obtain ⟨houtput, rfl⟩ := outcome_ofExcept_ok_iff.1 hread
  obtain ⟨input, _, hread', hlist⟩ := outcome_bind_ok_iff.1 hbelow
  obtain ⟨hinput, rfl⟩ := outcome_ofExcept_ok_iff.1 hread'
  obtain ⟨any, _, hany, hlist'⟩ := outcome_bind_ok_iff.1 hlist
  obtain ⟨rfl, hlocation, rfl⟩ := filesIn_of_listFiles hany
  obtain ⟨dark, _, hdark, hgenerate⟩ := outcome_bind_ok_iff.1 hlist'
  obtain ⟨adaptive, hadaptive, rfl, hlocations, rfl⟩ := filesIn_of_listDark hdark
  refine ⟨output, input, adaptive, houtput, hinput, hadaptive, ?_, hgenerate⟩
  simpa using ⟨hlocation, hlocations⟩

section
variable (before after : FileTree) (project : Project) {entry : Value} {output input : String}
  (houtput : Manifest.outputKey.required Shape.string (some entry) = .ok output)
  (hinput : inputKey.required Shape.string (some entry) = .ok input)
include houtput hinput

/-- The directory of light files is listed. -/
theorem lists_mem_uses :
    .lists (Path.join project.directory input) ∈ uses before after project entry := by
  rw [uses, houtput, hinput]
  exact List.mem_cons_self

/-- The uses of an entry whose keys can be read. -/
theorem uses_eq {adaptive : Option String} (hadaptive : darkDirectory? entry = .ok adaptive) :
    uses before after project entry =
      .lists (Path.join project.directory input) ::
        ((adaptive.map (Path.join project.directory)).toList.map .lists ++
          catalogUses (Path.join project.directory output) (Stage.run Image.stages (some entry)
            (Image.combine (filesIn before after (Path.join project.directory input))
              (((adaptive.map (Path.join project.directory)).map
                (filesIn before after)).getD [])))) := by
  rw [uses, houtput, hinput, hadaptive]
  rfl

end

end ImageSet

namespace Inherited

section
variable [first : Engine] {P : ∀ {α : Type}, World → (Engine → Action α) → Prop}
  (hP : Inherited P) {α β : Type}
include hP

/-! ### Values and loops -/

/-- The result of a computation has the property. -/
theorem ofExcept (result : Except Problem α) (world : World) :
    P world fun _ => Action.ofExcept result := by
  cases result with
  | ok a => exact hP.pure a world
  | error problem => exact hP.throw _ world

/-- A value that no problem ended. -/
theorem ofExcept_bind {result : Except Problem α} {next : Engine → α → Action β} {world : World}
    (h : ∀ a, result = .ok a → P world fun engine => next engine a) :
    P world fun engine => Action.ofExcept result >>= next engine := by
  apply hP.bind (hP.ofExcept result world)
  intro a world' hrun
  obtain ⟨hresult, rfl⟩ := outcome_ofExcept_ok_iff.1 hrun
  exact h a hresult

/-- A line of the log does not change the tree. -/
theorem log_bind {level : LogLevel} {message : String} {next : Engine → Unit → Action β}
    {world : World}
    (h : ∀ world', world'.tree = world.tree → P world' fun engine => next engine ()) :
    P world fun engine => Action.log level message >>= next engine := by
  apply hP.bind (hP.log level message world)
  intro _ world' hrun
  cases hrun
  exact h _ rfl

/-- A loop needs the property for each round that it comes to. A round starts from the tree that the
rounds before have left, and only rounds that are reached in this way have to have it. -/
theorem forM {items : List α} {body : Engine → α → Action Unit} {world : World}
    (h : ∀ item world', Rounds (body first) items world.tree item world'.tree →
      P world' fun engine => body engine item) :
    P world fun engine => items.forM (body engine) := by
  -- the rounds that are left are rounds of the whole loop
  have hrest : ∀ (left : List α) (between : World),
      (∀ item (world' : World), (∃ before after log', left = before ++ item :: after ∧
        outcome (before.forM (body first)) between = (.ok (), ⟨world'.tree, log'⟩)) →
          P world' fun engine => body engine item) →
        P between fun engine => left.forM (body engine) := by
    intro left
    induction left with
    | nil => exact fun between _ => hP.pure () between
    | cons item left ih =>
      intro between hbody
      simp only [forM_cons]
      apply hP.bind (hbody item between ⟨[], left, between.log, rfl, rfl⟩)
      intro _ world' hrun
      apply ih
      intro other world'' hround
      exact hbody other world'' (Rounds.later hrun hround)
  apply hrest
  rintro item world' ⟨before, after, log', hitems, hrun⟩
  exact h item world' ⟨before, after, world.log, log', hitems, hrun⟩

/-- A loop that collects values has the property if each of its steps does in every world. -/
theorem mapM {items : List α} {body : Engine → α → Action β} {world : World}
    (h : ∀ item ∈ items, ∀ world', P world' fun engine => body engine item) :
    P world fun engine => items.mapM (body engine) := by
  induction items generalizing world with
  | nil => exact hP.pure _ world
  | cons item items ih =>
    simp only [List.mapM_cons]
    apply hP.bind (h item List.mem_cons_self world)
    intro b world' _
    apply hP.bind (ih fun other hmem => h other (List.mem_cons_of_mem _ hmem))
    intro bs world'' _
    exact hP.pure _ world''

/-! ### Entries -/

variable {tree : FileTree} {uses : List FileUse} {world : World}

/-- Rendering into a file is rendering the source and writing the file. -/
theorem renderTo (h : Serves P tree uses) {source : TemplateSource} (hsource : source.Used uses)
    {context : Members} {output : String} (houtput : .writes output ∈ uses) :
    P world fun _ => source.renderTo context output := by
  simp only [TemplateSource.renderTo_eq]
  apply hP.log_bind
  intro logged _
  apply hP.bind (h.renders hsource context logged)
  exact fun text world' _ => h.writes houtput text world'

/-- A bundled template has the property of what is rendered and of what is written. -/
theorem renderTo_bundled (h : Serves P tree uses) {template : BundledTemplate}
    (htemplate : template ∈ BundledTemplate.all) {context : Members} {output : String}
    (houtput : .writes output ∈ uses) :
    P world fun _ => (TemplateSource.bundled template).renderTo context output :=
  hP.renderTo h (show (TemplateSource.bundled template).Used uses from htemplate) houtput

/-- A catalog of colours has the property if the manifests that it writes are among the uses. -/
theorem writeColors (h : Serves P tree uses) {catalog : String} {params : Value}
    {colors : List Color} (huses : ∀ use ∈ ColorSet.catalogUses catalog colors, use ∈ uses) :
    P world fun _ => ColorSet.writeCatalog catalog params colors := by
  apply hP.bind
  · exact hP.renderTo_bundled h (by simp [BundledTemplate.all]) (huses _ List.mem_cons_self)
  intro _ rooted _
  apply hP.forM
  intro color world' hround
  apply hP.ofExcept_bind
  intro _ _
  apply hP.renderTo_bundled h (by simp [BundledTemplate.all])
  exact huses _ (List.mem_cons_of_mem _ (List.mem_map_of_mem hround.mem))

/-- An entry for colours has it as well: with a problem it does nothing, and otherwise it writes the
catalog that its uses name. -/
theorem generateColors {project : Project} {entry : Value}
    (h : Serves P tree (ColorSet.uses project entry)) :
    P world fun _ => ColorSet.generate project entry := by
  apply hP.ofExcept_bind
  intro spec hspec
  apply hP.log_bind
  intro logged _
  apply hP.ofExcept_bind
  intro colors hcolors
  apply hP.bind (hP.forM fun hex world' _ => hP.log _ _ world')
  intro _ warned _
  apply hP.bind _ fun _ world' _ => hP.log _ _ world'
  apply hP.writeColors h
  intro use huse
  have huses : ColorSet.uses project entry = ColorSet.catalogUses
      (Path.join project.directory spec.output)
      (Stage.run Color.stages (some entry) colors) := by
    rw [ColorSet.uses, hspec]
    show FileUse.ofExcept (Color.combine spec.any spec.dark >>= _) = _
    rw [hcolors]
    rfl
  exact huses ▸ huse

/-- An image has it if its files were found in a directory that is listed. -/
theorem writeImage (h : Serves P tree uses) {catalog : String} {params : Value}
    {properties : Members} {image : Image}
    (huses : ∀ use ∈ ImageSet.imageUses catalog image, use ∈ uses)
    (hany : Listed tree uses image.any) (hdark : ∀ dark ∈ image.dark, Listed tree uses dark) :
    P world fun _ => ImageSet.writeImage catalog params properties image := by
  have hmanifest (world' : World) : P world' fun _ => (TemplateSource.bundled .image).renderTo
      (ImageSet.context params properties image)
      (Manifest.pathIn (Path.join catalog image.imageset)) := by
    apply hP.renderTo_bundled h (by simp [BundledTemplate.all])
    exact huses _ (by simp [ImageSet.imageUses])
  apply hP.bind
  · exact h.copies hany (huses _ (by simp [ImageSet.imageUses])) world
  intro _ copied _
  dsimp only
  split
  · rename_i dark name hsource hname
    apply hP.bind
    · exact h.copies (hdark dark hsource) (huses _ (by simp [ImageSet.imageUses, hname])) copied
    · exact fun _ world' _ => hmanifest world'
  · exact hmanifest copied

/-- The images of an entry, once their files are listed. All paths that it writes are among the
uses, and all files that it copies come from a listing. -/
theorem generateListed (h : Serves P tree uses) {project : Project} {entry : Value}
    {output : String} {any dark : List String}
    (huses : ∀ use ∈ ImageSet.catalogUses (Path.join project.directory output)
      (Stage.run Image.stages (some entry) (Image.combine any dark)), use ∈ uses)
    (hany : ∀ source ∈ any, Listed tree uses source)
    (hdark : ∀ source ∈ dark, Listed tree uses source) :
    P world fun _ => ImageSet.generateListed project entry output any dark := by
  apply hP.log_bind
  intro logged _
  apply hP.bind _ fun _ world' _ => hP.log _ _ world'
  apply hP.bind
  · exact hP.renderTo_bundled h (by simp [BundledTemplate.all]) (huses _ List.mem_cons_self)
  intro _ rooted _
  apply hP.forM
  intro image world' hround
  obtain ⟨hfrom, hfromDark⟩ := Image.sources_of_run hround.mem
  apply hP.writeImage h
  · intro use huse
    exact huses use (List.mem_cons_of_mem _ (List.mem_flatMap.2 ⟨image, hround.mem, huse⟩))
  · exact hany _ hfrom
  · intro source hsource
    exact hdark source (hfromDark source hsource)

/-- The images of an entry are those of the files that its directories hold at its start. -/
theorem generateImages {project : Project} {entry : Value}
    (h : Serves P world.tree (ImageSet.uses world.tree world.tree project entry)) :
    P world fun _ => ImageSet.generate project entry := by
  simp only [ImageSet.generate_eq]
  apply hP.ofExcept_bind
  intro output houtput
  apply hP.ofExcept_bind
  intro input hinput
  have hinputLists := ImageSet.lists_mem_uses world.tree world.tree project houtput hinput
  apply hP.bind (h.lists hinputLists world)
  intro any listed hany
  obtain ⟨rfl, -, rfl⟩ := ImageSet.filesIn_of_listFiles hany
  apply hP.bind
  · apply hP.ofExcept_bind
    intro adaptive hadaptive
    cases adaptive with
    | none => exact hP.pure _ _
    | some directory =>
      apply h.lists
      simp [ImageSet.uses_eq _ _ _ houtput hinput hadaptive]
  intro dark listed' hdark
  obtain ⟨adaptive, hadaptive, rfl, -, rfl⟩ := ImageSet.filesIn_of_listDark hdark
  have huses := ImageSet.uses_eq listed'.tree listed'.tree project houtput hinput hadaptive
  apply hP.generateListed h
  · intro use huse
    rw [huses]
    exact List.mem_cons_of_mem _ (List.mem_append_right _ huse)
  · exact fun source hsource => ⟨_, hinputLists, hsource⟩
  · intro source hsource
    cases adaptive with
    | none => cases hsource
    | some directory => exact ⟨_, by simp [huses], hsource⟩

/-- An output has it: its template is a bundled one or a file that is read, and its destination is
written. -/
theorem renderOutput {directory : String} {inputs : List Value} {output : Value}
    (h : Serves P tree (TemplatedFile.outputUses directory output)) :
    P world fun _ => TemplatedFile.renderOutput directory inputs output := by
  apply hP.ofExcept_bind
  intro reference hreference
  apply hP.ofExcept_bind
  intro destination hdestination
  have huses : TemplatedFile.outputUses directory output =
      .writes (Path.join directory destination) ::
        TemplatedFile.templateUses reference directory := by
    rw [TemplatedFile.outputUses, hreference, hdestination]
    rfl
  apply hP.bind
  · -- a reference that is not bundled is looked for among the files
    cases hfind : BundledTemplate.find? reference with
    | some template =>
      rw [TemplateSource.resolve, hfind]
      exact hP.pure _ world
    | none =>
      rw [TemplateSource.resolve_eq hfind]
      apply hP.bind (hP.require (persists_isFile _) _ world)
      exact fun _ world' _ => hP.pure _ world'
  intro source resolved hsource
  apply hP.bind _ fun _ world' _ => hP.log _ _ world'
  apply hP.within
  apply hP.renderTo h
  · rcases TemplateSource.resolve_cases hsource with ⟨template, hmem, rfl⟩ | ⟨hfind, rfl⟩
    · exact hmem
    · show FileUse.reads _ ∈ _
      simp [huses, TemplatedFile.templateUses, hfind]
  · simp [huses]

/-- An entry for templated files has it if it serves all of its outputs. Preparing the inputs only
reads the token document, which is in memory. -/
theorem generateFiles {project : Project} {entry : Value}
    (h : Serves P tree (TemplatedFile.uses project entry)) :
    P world fun _ => TemplatedFile.generate project entry := by
  apply hP.ofExcept_bind
  intro inputs _
  apply hP.ofExcept_bind
  intro outputs houtputs
  apply hP.bind
  · apply hP.mapM
    intro input _ world'
    apply hP.ofExcept_bind
    intro resolved _
    exact hP.log_bind fun world'' _ => hP.pure _ world''
  intro resolved world' _
  apply hP.forM
  intro output world'' hround
  apply hP.renderOutput (h.mono _)
  intro use huse
  rw [TemplatedFile.uses, houtputs]
  exact List.mem_flatMap.2 ⟨output, hround.mem, huse⟩

end

end Inherited

/-- A property of single actions holds of rendering a source if it holds of reading files. -/
theorem Inherited.rendered [first : Engine] {Q : ∀ {α : Type}, World → Action α → Prop}
    (hQ : Inherited (Single Q)) (hread : ∀ path world, Q world (readText path))
    (source : TemplateSource) (context : Members) (world : World) :
    Single Q world fun _ => source.rendered context := by
  apply hQ.bind
  · cases source with
    | bundled template => exact hQ.pure _ world
    | file path => exact hread path world
  · intro text world' _
    -- the engine is the first one, so the result is one and the same
    change Q world' (Action.ofExcept _)
    exact hQ.ofExcept _ world'

/-! ### Sections -/

/-- The kinds of entries. -/
inductive EntryKind where
  | colors
  | images
  | files
deriving DecidableEq, Repr

namespace EntryKind

/-- The name of the section that holds the entries. -/
def key : EntryKind → String
  | .colors => "colors"
  | .images => "images"
  | .files => "files"

/-- Generates an entry. -/
def generate [Engine] : EntryKind → Project → Value → Action Unit
  | .colors => ColorSet.generate
  | .images => ImageSet.generate
  | .files => TemplatedFile.generate

/-- The uses of an entry. -/
def uses (before after : FileTree) : EntryKind → Uses
  | .colors => ColorSet.uses
  | .images => ImageSet.uses before after
  | .files => TemplatedFile.uses

/-- The entries of this kind stand inside asset catalogs. -/
def InCatalog (kind : EntryKind) : Prop :=
  kind ≠ .files

/-- In a section that is generated from a tree, an entry is generated from another one. -/
def Reaches [Engine] (kind : EntryKind) (project : Project) (content : Value) (tree : FileTree)
    (entry : Value) (mid : FileTree) : Prop :=
  ∃ entries, specList kind.key content = .ok entries ∧
    Rounds (kind.generate project) entries tree entry mid

end EntryKind

namespace AssetCatalog

/-- A section of an asset catalog holds entries of one of the two kinds that belong there, or no
engine knows how to generate it. -/
theorem key_or_unknown (name : String) :
    (∃ kind : EntryKind, kind.InCatalog ∧ name = kind.key) ∨
      ∀ _ : Engine, generators.lookup name = none := by
  by_cases hcolors : name = EntryKind.colors.key
  · exact Or.inl ⟨.colors, by simp [EntryKind.InCatalog], hcolors⟩
  by_cases himages : name = EntryKind.images.key
  · exact Or.inl ⟨.images, by simp [EntryKind.InCatalog], himages⟩
  · simp only [EntryKind.key] at hcolors himages
    exact Or.inr fun _ => List.lookup_eq_none_iff.2 (by simp [generators, hcolors, himages])

/-- A section of a catalog generates its entries, once its shape is checked. -/
theorem generateSection_key [Engine] {kind : EntryKind} (hkind : kind.InCatalog)
    (project : Project) (content : Value) :
    generateSection project (kind.key, content) = (do
      let entries ← Action.ofExcept (specList kind.key content)
      Action.within ("Failed to generate xcassets '" ++ kind.key ++ "'")
        (entries.forM (kind.generate project))) := by
  cases kind with
  | colors => exact ofExcept_map_bind _ _ _
  | images => exact ofExcept_map_bind _ _ _
  | files => exact absurd rfl hkind

/-- The sections that a catalog holds. -/
def sectionsOf (content : Value) : Except Problem Members :=
  match content with
  | .object sections => .ok sections
  | _ => .error (.invalidConfigEntry "xcassets")

/-- The sections of a catalog are the members of an object. -/
theorem sectionsOf_eq_ok_iff {content : Value} {sections : Members} :
    sectionsOf content = .ok sections ↔ content = .object sections := by
  cases content <;> simp [sectionsOf]

/-- A catalog generates the sections that it holds. -/
theorem generator_eq [Engine] (project : Project) (content : Value) :
    generator project content =
      (sectionsOf content).map fun sections => sections.forM (generateSection project) := by
  cases content <;> rfl

end AssetCatalog

namespace Config

/-- A section of a configuration checks its shape and generates what it holds. -/
theorem generateSection_of_lookup [Engine] {α : Type} {name path : String} {content : Value}
    {project : Project} {generator : Generator} {result : Except Problem α}
    {action : α → Action Unit} (hlookup : generators.lookup name = some generator)
    (hgenerator : generator project content = result.map action) :
    generateSection project path (name, content) = (do
      Action.log .info ("Running '" ++ name ++ "' from " ++ path)
      let found ← Action.within ("Failed to configure section '" ++ name ++ "'")
        (Action.ofExcept result)
      Action.within ("Failed to generate section '" ++ name ++ "'") (action found)) := by
  simp only [generateSection, hlookup, hgenerator, within_ofExcept_map_bind]

/-- The section of catalogs checks its shape and generates the sections in it. -/
theorem generateSection_catalog [Engine] (project : Project) (path : String) (content : Value) :
    generateSection project path ("xcassets", content) = (do
      Action.log .info ("Running '" ++ "xcassets" ++ "' from " ++ path)
      let sections ← Action.within ("Failed to configure section '" ++ "xcassets" ++ "'")
        (Action.ofExcept (AssetCatalog.sectionsOf content))
      Action.within ("Failed to generate section '" ++ "xcassets" ++ "'")
        (sections.forM (AssetCatalog.generateSection project))) :=
  generateSection_of_lookup rfl (AssetCatalog.generator_eq project content)

/-- The section of templated files checks its shape and generates its entries. -/
theorem generateSection_files [Engine] (project : Project) (path : String) (content : Value) :
    generateSection project path ("files", content) = (do
      Action.log .info ("Running '" ++ "files" ++ "' from " ++ path)
      let entries ← Action.within ("Failed to configure section '" ++ "files" ++ "'")
        (Action.ofExcept (specList "files" content))
      Action.within ("Failed to generate section '" ++ "files" ++ "'")
        (entries.forM (TemplatedFile.generate project))) :=
  generateSection_of_lookup rfl rfl

/-- A section of a configuration is a catalog or a list of files, or no engine knows how to generate
it. -/
theorem name_cases (name : String) :
    name = "xcassets" ∨ name = "files" ∨ ∀ _ : Engine, generators.lookup name = none := by
  by_cases hcatalog : name = "xcassets"
  · exact Or.inl hcatalog
  by_cases hfiles : name = "files"
  · exact Or.inr (Or.inl hfiles)
  · exact Or.inr (Or.inr fun _ =>
      List.lookup_eq_none_iff.2 (by simp [generators, hcatalog, hfiles]))

/-- While configurations are generated from a tree, an entry of a section that has a generator is
generated from the tree that there is then. -/
inductive Reaches [Engine] (project : Project) (configs : List Config) (tree : FileTree) :
    EntryKind → Value → FileTree → Prop
  | inCatalog {kind : EntryKind} {config : Config} {sections : Members} {content entry : Value}
    {start between inner mid : FileTree}
    (hconfig : Rounds (generate project) configs tree config start)
    (hcatalog : Rounds (generateSection project config.path) config.sections start
      ("xcassets", .object sections) between)
    (hsection : Rounds (AssetCatalog.generateSection project) sections between
      (kind.key, content) inner)
    (hkind : kind.InCatalog) (hentry : kind.Reaches project content inner entry mid) :
    Reaches project configs tree kind entry mid
  | inFiles {config : Config} {content entry : Value} {start between mid : FileTree}
    (hconfig : Rounds (generate project) configs tree config start)
    (hsection : Rounds (generateSection project config.path) config.sections start
      ("files", content) between)
    (hentry : EntryKind.files.Reaches project content between entry mid) :
    Reaches project configs tree .files entry mid

/-- What an entry uses belongs to what the configurations use. An entry that is reached stands in
some section of some configuration, and the uses are collected in the same way. -/
theorem uses_of_reaches [Engine] {project : Project} {configs : List Config} {tree mid : FileTree}
    {kind : EntryKind} {entry : Value} (h : Reaches project configs tree kind entry mid)
    (before after : FileTree) :
    ∀ use ∈ kind.uses before after project entry,
      use ∈ configs.flatMap (uses before after project) := by
  intro use huse
  have hlist {content : Value} {start : FileTree}
      (hentry : kind.Reaches project content start entry mid) :
      use ∈ Uses.ofEntries kind.key (kind.uses before after) project content := by
    obtain ⟨entries, hentries, hround⟩ := hentry
    rw [Uses.ofEntries, hentries]
    exact List.mem_flatMap.2 ⟨entry, hround.mem, huse⟩
  cases h with
  | inCatalog hconfig hcatalog hsection hkind hentry =>
    refine List.mem_flatMap.2 ⟨_, hconfig.mem, List.mem_flatMap.2 ⟨_, hcatalog.mem, ?_⟩⟩
    refine List.mem_flatMap.2 ⟨_, hsection.mem, ?_⟩
    have hmem := hlist hentry
    cases kind with
    | colors => exact hmem
    | images => exact hmem
    | files => exact absurd rfl hkind
  | inFiles hconfig hsection hentry =>
    exact List.mem_flatMap.2 ⟨_, hconfig.mem, List.mem_flatMap.2 ⟨_, hsection.mem, hlist hentry⟩⟩

end Config

/-- A run loads everything before it generates anything. -/
theorem Run.execute_eq [Engine] (run : Run) (directory : String) : run.execute directory = (do
    let (configs, token) ← run.load directory
    Action.log .debug ("Loaded " ++ toString configs.length ++ " configuration file(s)")
    Config.generateAll ⟨token, directory⟩ configs
    Action.log .info "Done") := by
  simp only [execute, load, bind_assoc, pure_bind]

namespace Inherited

variable [first : Engine] {P : ∀ {α : Type}, World → (Engine → Action α) → Prop}
  (hP : Inherited P) {project : Project}
include hP

/-- What an entry uses depends on the tree that it is generated from. -/
theorem entry {kind : EntryKind} {entry : Value} {world : World}
    (h : Serves P world.tree (kind.uses world.tree world.tree project entry)) :
    P world fun _ => kind.generate project entry := by
  cases kind with
  | colors => exact hP.generateColors h
  | images => exact hP.generateImages h
  | files => exact hP.generateFiles h

/-- The entries of a list need the property as the loop comes to them. -/
theorem entries {kind : EntryKind} {entries : List Value} {content : Value} {world : World}
    (hlist : specList kind.key content = .ok entries)
    (hentry : ∀ entry (world' : World),
      kind.Reaches project content world.tree entry world'.tree →
        P world' fun _ => kind.generate project entry) :
    P world fun _ => entries.forM (kind.generate project) := by
  apply hP.forM
  intro entry world' hround
  exact hentry entry world' ⟨entries, hlist, hround⟩

/-- A section of a catalog has the property if its entries do as the loop comes to them. An
unknown section fails at once. -/
theorem catalogSection {name : String} {content : Value} {world : World}
    (hentry : ∀ (kind : EntryKind) entry (world' : World), kind.InCatalog → name = kind.key →
      kind.Reaches project content world.tree entry world'.tree →
        P world' fun _ => kind.generate project entry) :
    P world fun _ => AssetCatalog.generateSection project (name, content) := by
  rcases AssetCatalog.key_or_unknown name with ⟨kind, hkind, rfl⟩ | hunknown
  · simp only [AssetCatalog.generateSection_key, hkind]
    apply hP.ofExcept_bind
    intro entries hentries
    apply hP.within
    exact hP.entries hentries fun entry world' => hentry kind entry world' hkind rfl
  · simp only [AssetCatalog.generateSection, hunknown]
    exact hP.throw _ world

/-- A section of a configuration has it if the sections of its catalog do, or its entries. An
unknown section only leaves a line in the log. -/
theorem configSection {path name : String} {content : Value} {world : World}
    (hcatalog : ∀ sections, name = "xcassets" → content = .object sections →
      ∀ item (world' : World),
        Rounds (AssetCatalog.generateSection project) sections world.tree item world'.tree →
          P world' fun _ => AssetCatalog.generateSection project item)
    (hfiles : ∀ entry (world' : World), name = "files" →
      EntryKind.files.Reaches project content world.tree entry world'.tree →
        P world' fun _ => TemplatedFile.generate project entry) :
    P world fun _ => Config.generateSection project path (name, content) := by
  rcases Config.name_cases name with rfl | rfl | hunknown
  · simp only [Config.generateSection_catalog]
    apply hP.log_bind
    intro logged hlogged
    apply hP.bind (hP.within (hP.ofExcept _ logged))
    intro sections configured hconfigured
    obtain ⟨hsections, rfl⟩ := outcome_ofExcept_ok_iff.1 (outcome_within_ok_iff.1 hconfigured)
    apply hP.within
    apply hP.forM
    rw [hlogged]
    have hcontent := AssetCatalog.sectionsOf_eq_ok_iff.1 hsections
    exact fun item world' => hcatalog sections rfl hcontent item world'
  · simp only [Config.generateSection_files]
    apply hP.log_bind
    intro logged hlogged
    apply hP.bind (hP.within (hP.ofExcept _ logged))
    intro entries configured hconfigured
    obtain ⟨hentries, rfl⟩ := outcome_ofExcept_ok_iff.1 (outcome_within_ok_iff.1 hconfigured)
    apply hP.within
    refine hP.entries (show specList EntryKind.files.key content = _ from hentries) ?_
    rw [hlogged]
    exact fun entry world' => hfiles entry world' rfl
  · simp only [Config.generateSection, hunknown]
    exact hP.log _ _ world

/-- All configurations need the property for the entries that they come to. Each entry is met in a
world that the run really comes to, so a property may depend on the tree that the entries before
have left. -/
theorem generateAll {configs : List Config} {world : World}
    (h : ∀ (kind : EntryKind) entry (world' : World),
      Config.Reaches project configs world.tree kind entry world'.tree →
        P world' fun _ => kind.generate project entry) :
    P world fun _ => Config.generateAll project configs := by
  apply hP.forM
  intro config start hconfig
  apply hP.forM
  rintro ⟨name, content⟩ between hsection
  apply hP.configSection
  · rintro sections rfl rfl ⟨inner, content⟩ innerWorld hinner
    apply hP.catalogSection
    rintro kind entry world' hkind rfl hentry
    exact h kind entry world' (.inCatalog hconfig hsection hinner hkind hentry)
  · rintro entry world' rfl hentry
    exact h .files entry world' (.inFiles hconfig hsection hentry)

/-! ### Runs -/

/-- Loading has it if the reading of each document does, since looking whether a document is there
and taking it apart change nothing. -/
theorem load {run : Run} {directory : String} {world : World}
    (hreads : ∀ path ∈ run.token :: run.configs, ∀ world',
      P world' fun _ => readText (Path.join directory path)) :
    P world fun _ => run.load directory := by
  apply hP.bind
  · apply hP.mapM
    intro path hpath world'
    simp only [Config.load_eq]
    apply hP.bind (hP.require (persists_present _) _ world')
    intro _ found _
    apply hP.bind (hreads path (List.mem_cons_of_mem _ hpath) found)
    intro text read _
    apply hP.ofExcept_bind
    intro config _
    exact hP.log_bind fun logged _ => hP.pure _ logged
  intro configs world' _
  apply hP.bind _ fun _ loaded _ => hP.pure _ loaded
  simp only [DesignToken.load_eq]
  apply hP.bind (hP.require (persists_present _) _ world')
  intro _ found _
  apply hP.bind (hreads run.token List.mem_cons_self found)
  intro text read _
  apply hP.ofExcept_bind
  intro value _
  exact hP.log_bind fun logged _ => hP.ofExcept _ logged

/-- A run generates what it has loaded. So it has the property if its reads have it and if its
configurations have it in the world behind the reads. -/
theorem execute {run : Run} {directory : String} {world : World}
    (hreads : ∀ path ∈ run.token :: run.configs, ∀ world',
      P world' fun _ => readText (Path.join directory path))
    (hgenerate : ∀ configs token (world' : World),
      (∃ log, outcome (run.load directory) world = (.ok (configs, token), ⟨world'.tree, log⟩)) →
        P world' fun _ => Config.generateAll ⟨token, directory⟩ configs) :
    P world fun _ => run.execute directory := by
  simp only [Run.execute_eq]
  apply hP.bind (hP.load hreads)
  rintro ⟨configs, token⟩ loaded hload
  apply hP.log_bind
  intro logged hlogged
  apply hP.bind (hgenerate configs token logged ⟨loaded.log, by rw [hload, hlogged]⟩)
  exact fun _ world' _ => hP.log _ _ world'

end Inherited

end DesignTokens

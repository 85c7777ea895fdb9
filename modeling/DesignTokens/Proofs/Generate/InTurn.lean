import DesignTokens.Proofs.Generate.Inherited

/-!
# One section after the other

`Action.effect` is what an action comes to in a tree, whatever the log holds: its result and the
tree that it leaves. All generators ignore the log (`IgnoresLog`), so the effect of a loop is that
of its rounds `inTurn`, each from the tree that the one before left, up to the first failure.

The configurations of a run come down to their known sections in turn
(`Config.effect_generateAll`). From this follow the laws in `Config.sections_inTurn`: how a run is
split, which sections count, and where a section fails that cannot be generated.
-/

set_option autoImplicit false

namespace DesignTokens

open DesignTokens.Action DesignTokens.FileTree

/-! ### Effects -/

namespace Action

/-- An outcome without its log. -/
def settled {α : Type} (behind : Except Failure α × World) : Except Failure α × FileTree :=
  (behind.1, behind.2.tree)

/-- What an action comes to in a tree: its result and the tree behind it. -/
def effect {α : Type} (action : Action α) (tree : FileTree) : Except Failure α × FileTree :=
  settled (outcome action ⟨tree, []⟩)

/-- What the log holds makes no difference. -/
def IgnoresLog {α : Type} (world : World) (action : Action α) : Prop :=
  ∀ log, settled (outcome action ⟨world.tree, log⟩) = settled (outcome action world)

/-- For an action that ignores the log, any outcome in a tree shows its effect there. -/
theorem effect_of_outcome {α : Type} {action : Action α} {world world' : World}
    {result : Except Failure α} (hignores : IgnoresLog world action)
    (h : outcome action world = (result, world')) :
    effect action world.tree = (result, world'.tree) := by
  rw [effect, hignores [], h]
  rfl

/-- What has an effect has an outcome that differs from it in the log alone. -/
theorem exists_outcome {α : Type} {action : Action α} {tree tree' : FileTree}
    {result : Except Failure α} (h : effect action tree = (result, tree')) :
    ∃ world', outcome action ⟨tree, []⟩ = (result, world') ∧ world'.tree = tree' := by
  rcases houtcome : outcome action ⟨tree, []⟩ with ⟨result', world'⟩
  rw [effect, houtcome] at h
  cases h
  exact ⟨world', rfl, rfl⟩

/-- With another log the outcome differs in nothing but its log. -/
theorem IgnoresLog.exists_log {α : Type} {action : Action α} {world world' : World}
    {result : Except Failure α} (h : IgnoresLog world action)
    (houtcome : outcome action world = (result, world')) (log : List LogLine) :
    ∃ log', outcome action ⟨world.tree, log⟩ = (result, ⟨world'.tree, log'⟩) := by
  have hsame := h log
  rcases houtcome' : outcome action ⟨world.tree, log⟩ with ⟨result', tree', log'⟩
  rw [houtcome, houtcome'] at hsame
  obtain ⟨rfl, rfl⟩ : result' = result ∧ tree' = world'.tree := by
    simpa only [settled, Prod.mk.injEq] using hsame
  exact ⟨log', rfl⟩

/-- A question about the files does not read the log. -/
theorem ignoresLog_ask {α : Type} (question : FileTree → α) (world : World) :
    IgnoresLog world (ask question) :=
  fun _ => rfl

/-- A question that may fail ignores the log, whatever its answer is. -/
theorem ignoresLog_look {α : Type} (context : String) (question : FileTree → Except FileFault α)
    (world : World) : IgnoresLog world (look context question) := by
  intro log
  rw [outcome_look, outcome_look]
  cases question world.tree <;> rfl

/-- A change of the files ignores the log. -/
theorem ignoresLog_change (context : String) (step : FileTree → Except FileFault FileTree)
    (world : World) : IgnoresLog world (change context step) := by
  intro log
  rw [outcome_change, outcome_change]
  cases step world.tree <;> rfl

/-- The making of a directory ignores it, with all that is missing on the way. -/
theorem ignoresLog_ensureDirectory (path : String) (world : World) :
    IgnoresLog world (ensureDirectory path) := by
  intro log
  rw [outcome_ensureDirectory, outcome_ensureDirectory]
  dsimp only
  split
  · split <;> rfl
  · rcases world.tree.makeDirectories path (path.length + 1) with ⟨tree, fault | ⟨⟩⟩ <;> rfl

/-- The result of a computation does not depend on the world at all. -/
theorem ignoresLog_ofExcept {α : Type} (result : Except Problem α) (world : World) :
    IgnoresLog world (Action.ofExcept result) := by
  intro log
  cases result <;> rfl

/-- The second step is entered with the same value and the same tree. -/
theorem IgnoresLog.bind {α β : Type} {action : Action α} {next : α → Action β} {world : World}
    (haction : IgnoresLog world action)
    (hnext : ∀ a world', outcome action world = (.ok a, world') → IgnoresLog world' (next a)) :
    IgnoresLog world (action >>= next) := by
  intro log
  rcases houtcome : outcome action world with ⟨result, world'⟩
  obtain ⟨log', hagain⟩ := haction.exists_log houtcome log
  rw [outcome_bind, outcome_bind, houtcome, hagain]
  cases result with
  | error failure => rfl
  | ok a => exact hnext a world' houtcome log'

/-- A context is put around the failure alone. -/
theorem IgnoresLog.within {α : Type} {context : String} {action : Action α} {world : World}
    (haction : IgnoresLog world action) : IgnoresLog world (within context action) := by
  intro log
  rcases houtcome : outcome action world with ⟨result, world'⟩
  obtain ⟨log', hagain⟩ := haction.exists_log houtcome log
  rw [outcome_within, outcome_within, houtcome, hagain]
  cases result <;> rfl

/-- A loop ignores the log if each of its rounds does, in whatever world it starts. -/
theorem IgnoresLog.forM {α : Type} {body : α → Action Unit} {items : List α} {world : World}
    (h : ∀ item world', IgnoresLog world' (body item)) : IgnoresLog world (items.forM body) := by
  induction items generalizing world with
  | nil => exact fun _ => rfl
  | cons item items ih =>
    rw [forM_cons]
    exact (h item world).bind fun _ _ _ => ih

/-- Whatever is made of actions that ignore the log ignores it too. -/
theorem inherited_ignoresLog [Template.Engine] : Inherited (Single IgnoresLog) where
  pure _ _ _ := rfl
  throw _ _ _ := rfl
  log _ _ _ _ := rfl
  require {question} _ failure world := by
    apply (ignoresLog_ask question world).bind
    intro answer world' _ log
    cases answer <;> rfl
  bind := IgnoresLog.bind
  within := IgnoresLog.within

/-- The directory that a path lies in is made without a look at the log. -/
theorem ignoresLog_ensureParent (path : String) (world : World) :
    IgnoresLog world (ensureParent path) := by
  unfold ensureParent
  split
  · exact ignoresLog_ensureDirectory _ world
  · exact fun _ => rfl

/-- A text is written without a look at the log. -/
theorem ignoresLog_writeText (path content : String) (world : World) :
    IgnoresLog world (writeText path content) :=
  (ignoresLog_ensureParent path world).bind fun _ _ _ => ignoresLog_change _ _ _

/-- A file is copied without a look at the log, whether something is removed for it or not. -/
theorem ignoresLog_replaceFile (source destination : String) (world : World) :
    IgnoresLog world (replaceFile source destination) := by
  have hcopy (start : World) : IgnoresLog start (do
      ensureParent destination
      change ("Failed to copy file from " ++ source ++ " to " ++ destination)
        (·.copy source destination)) :=
    (ignoresLog_ensureParent destination start).bind fun _ _ _ => ignoresLog_change _ _ _
  apply (ignoresLog_ask _ world).bind
  intro present world' _
  cases present with
  | false => exact hcopy world'
  | true => exact (ignoresLog_change _ _ world').bind fun _ removed _ => hcopy removed

/-- Rendering into a file reads, renders and writes. -/
theorem ignoresLog_renderTo [Template.Engine] (source : TemplateSource) (context : Members)
    (output : String) (world : World) : IgnoresLog world (source.renderTo context output) := by
  have hrendered (start : World) : IgnoresLog start (source.rendered context) :=
    inherited_ignoresLog.rendered (fun _ => ignoresLog_look _ _) source context start
  rw [TemplateSource.renderTo_eq]
  exact IgnoresLog.bind (fun _ => rfl) fun _ start _ =>
    (hrendered start).bind fun text => fun world' _ => ignoresLog_writeText output text world'

/-- All steps of generators ignore the log. -/
theorem serves_ignoresLog [Template.Engine] (tree : FileTree) (uses : List FileUse) :
    Serves (Single IgnoresLog) tree uses where
  renders _ := inherited_ignoresLog.rendered (fun _ => ignoresLog_look _ _) _
  lists _ world := (ignoresLog_look _ _ world).bind fun _ _ _ _ => rfl
  writes _ := ignoresLog_writeText _
  copies _ _ := ignoresLog_replaceFile _ _

/-! ### Actions in turn -/

/-- What follows a success; a failure stays. -/
def andThen (first : Except Failure Unit × FileTree)
    (next : FileTree → Except Failure Unit × FileTree) : Except Failure Unit × FileTree :=
  match first with
  | (.ok (), tree) => next tree
  | (.error failure, tree) => (.error failure, tree)

/-- Actions one at a time, each in the tree that the one before leaves, up to the first failure. -/
def inTurn : List (Action Unit) → FileTree → Except Failure Unit × FileTree
  | [], tree => (.ok (), tree)
  | action :: actions, tree => andThen (effect action tree) (inTurn actions)

/-- What follows may be replaced by what comes to the same in every tree. -/
theorem andThen_congr {next next' : FileTree → Except Failure Unit × FileTree}
    (h : ∀ tree, next tree = next' tree) (first : Except Failure Unit × FileTree) :
    andThen first next = andThen first next' := by
  rw [funext h]

/-- Three effects that follow each other may be grouped either way. -/
theorem andThen_assoc (first : Except Failure Unit × FileTree)
    (second third : FileTree → Except Failure Unit × FileTree) :
    andThen (andThen first second) third =
      andThen first fun tree => andThen (second tree) third := by
  rcases first with ⟨failure | ⟨⟩, tree⟩ <;> rfl

/-- Actions in turn can be split anywhere: the later ones start from the tree that the earlier ones
leave, if these succeed. -/
theorem inTurn_append (actions later : List (Action Unit)) (tree : FileTree) :
    inTurn (actions ++ later) tree = andThen (inTurn actions tree) (inTurn later) := by
  induction actions generalizing tree with
  | nil => rfl
  | cons action actions ih =>
    rw [List.cons_append, inTurn, inTurn, andThen_assoc]
    exact andThen_congr ih _

/-- The effect of a sequence is the second effect after the first one, as long as the second action
ignores the log that the first one has filled. -/
theorem effect_andThen {first second : Action Unit} (h : ∀ world, IgnoresLog world second)
    (tree : FileTree) :
    effect (first >>= fun _ => second) tree = andThen (effect first tree) (effect second) := by
  rw [effect, effect, outcome_bind]
  rcases outcome first ⟨tree, []⟩ with ⟨failure | ⟨⟩, world⟩
  · rfl
  · exact (h world []).symm

/-- Neither a value in front nor a line of the log has an effect. -/
theorem effect_value_bind {α β : Type} (a : α) (next : α → Action β) (tree : FileTree) :
    effect (ofExcept (.ok a) >>= next) tree = effect (next a) tree := rfl

/-- A line of the log in front of an action has no effect. -/
theorem effect_log_bind (level : LogLevel) (message : String) {next : Action Unit}
    (h : ∀ world, IgnoresLog world next) (tree : FileTree) :
    effect (log level message >>= fun _ => next) tree = effect next tree := by
  rw [effect_andThen h, effect, outcome_log]
  rfl

/-- A line of the log behind an action has no effect. -/
theorem effect_bind_log (action : Action Unit) (level : LogLevel) (message : String)
    (tree : FileTree) :
    effect (action >>= fun _ => log level message) tree = effect action tree := by
  rw [effect_andThen fun _ _ => rfl]
  rcases effect action tree with ⟨failure | ⟨⟩, tree'⟩ <;> rfl

/-- The effect of a loop is that of its rounds in turn. -/
theorem effect_forM {α : Type} {body : α → Action Unit}
    (h : ∀ item world, IgnoresLog world (body item)) (items : List α) (tree : FileTree) :
    effect (items.forM body) tree = inTurn (items.map body) tree := by
  induction items generalizing tree with
  | nil => rfl
  | cons item items ih =>
    rw [forM_cons, effect_andThen (fun _ => IgnoresLog.forM h), List.map_cons, inTurn]
    exact andThen_congr ih _

/-- Rounds may be replaced by others of the same effect. -/
theorem inTurn_congr {α : Type} {items : List α} {body body' : α → Action Unit}
    (h : ∀ item tree, effect (body item) tree = effect (body' item) tree) (tree : FileTree) :
    inTurn (items.map body) tree = inTurn (items.map body') tree := by
  induction items generalizing tree with
  | nil => rfl
  | cons item items ih =>
    rw [List.map_cons, List.map_cons, inTurn, inTurn, h]
    exact andThen_congr ih _

/-- What has no effect may be left out. The unknown sections of a configuration are of that kind, as
they only leave a line in the log. -/
theorem inTurn_filter {α : Type} {body : α → Action Unit} {kept : α → Bool} {items : List α}
    (h : ∀ item ∈ items, kept item = false → ∀ tree, effect (body item) tree = (.ok (), tree))
    (tree : FileTree) :
    inTurn ((items.filter kept).map body) tree = inTurn (items.map body) tree := by
  induction items generalizing tree with
  | nil => rfl
  | cons item items ih =>
    have hrest := ih fun other hmem => h other (List.mem_cons_of_mem _ hmem)
    cases hkept : kept item with
    | true =>
      rw [List.filter_cons_of_pos hkept, List.map_cons, List.map_cons, inTurn, inTurn]
      exact andThen_congr hrest _
    | false =>
      rw [List.filter_cons_of_neg (by simp [hkept]), hrest, List.map_cons, inTurn,
        h item List.mem_cons_self hkept]
      rfl

/-- A failing action ends what is in turn. -/
theorem inTurn_append_error {actions later : List (Action Unit)} {action : Action Unit}
    {failure : Failure} (h : ∀ tree, effect action tree = (.error failure, tree))
    (tree : FileTree) :
    inTurn (actions ++ action :: later) tree =
      andThen (inTurn actions tree) fun tree' => (.error failure, tree') := by
  rw [inTurn_append]
  apply andThen_congr
  intro tree'
  rw [inTurn, h]
  rfl

/-- After others that succeed, the last action has its own effect. -/
theorem inTurn_concat {α : Type} {body : α → Action Unit} {before : List α}
    {tree mid : FileTree} (h : inTurn (before.map body) tree = (.ok (), mid)) (item : α) :
    inTurn ((before ++ [item]).map body) tree = effect (body item) mid := by
  rw [List.map_append, inTurn_append, h]
  show andThen (effect (body item) mid) (inTurn []) = _
  rcases effect (body item) mid with ⟨failure | ⟨⟩, last⟩ <;> rfl

/-- What is in turn fails with the first action that fails in the tree that it meets. -/
theorem inTurn_eq_error_iff {α : Type} {body : α → Action Unit} {items : List α}
    {tree last : FileTree} {failure : Failure} :
    inTurn (items.map body) tree = (.error failure, last) ↔
      ∃ before item after mid, items = before ++ item :: after ∧
        inTurn (before.map body) tree = (.ok (), mid) ∧
        effect (body item) mid = (.error failure, last) := by
  constructor
  · intro h
    -- the tree is general, because each action starts from what the one before it left
    induction items generalizing tree with
    | nil => cases h
    | cons first items ih =>
      rw [List.map_cons, inTurn] at h
      rcases hfirst : effect (body first) tree with ⟨other | ⟨⟩, next⟩
      · rw [hfirst] at h
        cases h
        exact ⟨[], first, items, tree, rfl, rfl, hfirst⟩
      · rw [hfirst] at h
        obtain ⟨before, item, after, mid, rfl, hbefore, hitem⟩ := ih h
        refine ⟨first :: before, item, after, mid, rfl, ?_, hitem⟩
        rw [List.map_cons, inTurn, hfirst]
        exact hbefore
  · rintro ⟨before, item, after, mid, rfl, hbefore, hitem⟩
    rw [List.map_append, inTurn_append, hbefore, List.map_cons]
    show andThen (effect (body item) mid) _ = _
    rw [hitem]
    rfl

/-- An effect whose failure has one more context. -/
def underContext (context : String) (behind : Except Failure Unit × FileTree) :
    Except Failure Unit × FileTree :=
  (behind.1.mapError (·.addContext context), behind.2)

/-- A context around two effects is one around each of them. -/
theorem underContext_andThen (context : String) (first : Except Failure Unit × FileTree)
    (next : FileTree → Except Failure Unit × FileTree) :
    underContext context (andThen first next) =
      andThen (underContext context first) fun tree => underContext context (next tree) := by
  rcases first with ⟨failure | ⟨⟩, tree⟩ <;> rfl

/-- The effect of an action in a context has the context around its failure. -/
theorem effect_within (context : String) (action : Action Unit) (tree : FileTree) :
    effect (within context action) tree = underContext context (effect action tree) := by
  rw [effect, effect, outcome_within]
  rcases outcome action ⟨tree, []⟩ with ⟨failure | ⟨⟩, world⟩ <;> rfl

/-- Actions that come down to parts come down to all parts in turn. -/
theorem inTurn_flatMap {α : Type} {body : α → Action Unit} {parts : α → List (Action Unit)}
    {items : List α}
    (h : ∀ item ∈ items, ∀ tree, effect (body item) tree = inTurn (parts item) tree)
    (tree : FileTree) :
    inTurn (items.map body) tree = inTurn (items.flatMap parts) tree := by
  induction items generalizing tree with
  | nil => rfl
  | cons item items ih =>
    rw [List.map_cons, inTurn, List.flatMap_cons, inTurn_append, h item List.mem_cons_self]
    exact andThen_congr (ih fun other hmem => h other (List.mem_cons_of_mem _ hmem)) _

/-- A bundled template that renders has the effect of writing its text. -/
theorem effect_renderTo [Template.Engine] {template : BundledTemplate} {context : Members}
    {rendered : String}
    (h : Template.renderText template.content context = .ok rendered) (output : String)
    (tree : FileTree) :
    effect ((TemplateSource.bundled template).renderTo context output) tree =
      effect (writeText output rendered) tree := by
  rw [effect, TemplateSource.outcome_renderTo_bundled h]
  exact ignoresLog_writeText output rendered ⟨tree, []⟩ _

end Action

/-! ### Sections of an asset catalog -/

/-- The content of a section is a list of mappings. -/
def ListOfMappings (content : Value) : Prop :=
  ∃ items, content = .array items ∧ ∀ item ∈ items, item.isObject = true

/-- What is no list of mappings is refused with the key of its section. -/
theorem specList_eq_error {key : String} {content : Value} (h : ¬ ListOfMappings content) :
    specList key content = .error (.invalidConfigEntry key) := by
  unfold specList
  split
  · rename_i items
    split
    · rename_i hall
      exact absurd ⟨items, rfl, List.all_eq_true.1 hall⟩ h
    · rfl
  · rfl

namespace AssetCatalog

variable [Template.Engine]

/-- A section of an asset catalog ignores the log. -/
theorem ignoresLog_generateSection (project : Project) (item : String × Value) (world : World) :
    IgnoresLog world (generateSection project item) :=
  inherited_ignoresLog.catalogSection fun _ _ _ _ _ _ =>
    inherited_ignoresLog.entry (serves_ignoresLog _ _)

/-- A section without a generator fails. -/
theorem effect_generateSection_unknown {key : String} (h : generators.lookup key = none)
    (project : Project) (content : Value) (tree : FileTree) :
    effect (generateSection project (key, content)) tree =
      (.error (.ofProblem (.invalidConfigEntry key)), tree) := by
  simp only [generateSection, h]
  rfl

/-- A section fails at its start if it does not hold a list of mappings. -/
theorem effect_generateSection_malformed {kind : EntryKind} (hkind : kind.InCatalog)
    {content : Value} (h : ¬ ListOfMappings content) (project : Project) (tree : FileTree) :
    effect (generateSection project (kind.key, content)) tree =
      (.error (.ofProblem (.invalidConfigEntry kind.key)), tree) := by
  rw [generateSection_key hkind, specList_eq_error h]
  rfl

end AssetCatalog

/-! ### Sections of a configuration -/

namespace Config

/-- The sections are in canonical form, as those of a configuration that was read. -/
def Ordered (config : Config) : Prop :=
  (Value.object config.sections).Ordered

/-- A configuration that was read has its sections in order, since the document is brought into
canonical form before they are taken from it. -/
theorem ordered_of_parse {path text : String} {config : Config}
    (h : parse path text = .ok config) : config.Ordered := by
  unfold parse at h
  split at h
  · cases h
  · rename_i sections hdecode
    cases h
    obtain ⟨tokens, -, hroot⟩ := Result.bind_eq_ok_iff.1 hdecode
    obtain ⟨root, -, hvalue⟩ := Result.bind_eq_ok_iff.1 hroot
    obtain ⟨⟨value, _⟩, -, hcanonical⟩ := Result.bind_eq_ok_iff.1 hvalue
    have heq : value.canonical = .object sections := Except.ok.inj hcanonical
    rw [Ordered, ← heq]
    exact Value.ordered_canonical value
  · cases h

section
variable [Template.Engine]

/-- Whether there is a generator for a section. -/
def isKnown (item : String × Value) : Bool :=
  (generators.lookup item.1).isSome

/-- The configuration without the sections that have no generator. -/
def known (config : Config) : Config :=
  { config with sections := config.sections.filter isKnown }

/-- The configuration with a single section. -/
def only (config : Config) (name : String) : Config :=
  { config with sections := config.sections.filter fun item => item.1 = name }

/-- The known sections in the order of their names. -/
def knownSections (config : Config) : Members :=
  ["files", "xcassets"].filterMap fun name =>
    (config.sections.lookup name).map fun content => (name, content)

/-- The known sections are those of templated files and of asset catalogs. -/
theorem isKnown_iff {item : String × Value} :
    isKnown item = true ↔ item.1 = "files" ∨ item.1 = "xcassets" := by
  obtain ⟨name, content⟩ := item
  constructor
  · intro h
    rcases name_cases name with rfl | rfl | hunknown
    · exact Or.inr rfl
    · exact Or.inl rfl
    · simp [isKnown, hunknown] at h
  · rintro (rfl | rfl) <;> rfl

/-- The known sections of a configuration in order are its files and then its catalogs. -/
theorem Ordered.filter_isKnown {config : Config} (h : config.Ordered) :
    config.sections.filter isKnown = (config.only "files").sections ++
      (config.only "xcassets").sections := by
  have hkeys : ("files" : String) < "xcassets" := by decide
  rw [only, only, ← Keyed.filter_or h.1 hkeys]
  apply List.filter_congr
  intro item _
  rw [Bool.eq_iff_iff, isKnown_iff]
  simp

/-- They are the sections of these two names, where there are any. -/
theorem Ordered.knownSections_eq {config : Config} (h : config.Ordered) :
    config.sections.filter isKnown = config.knownSections := by
  rw [h.filter_isKnown, only, only, Keyed.filter_key h.1, Keyed.filter_key h.1]
  cases hfiles : config.sections.lookup "files" <;>
    cases hcatalogs : config.sections.lookup "xcassets" <;>
      simp [knownSections, hfiles, hcatalogs]

variable (project : Project)

/-- A section of a configuration ignores the log, since all generators do. -/
theorem ignoresLog_generateSection (path : String) (item : String × Value) (world : World) :
    IgnoresLog world (generateSection project path item) := by
  obtain ⟨name, content⟩ := item
  apply inherited_ignoresLog.configSection
  · exact fun _ _ _ item world' _ => AssetCatalog.ignoresLog_generateSection project item world'
  · exact fun _ world' _ _ => inherited_ignoresLog.generateFiles (serves_ignoresLog world'.tree _)

/-- A configuration ignores the log, since its sections do. -/
theorem ignoresLog_generate (config : Config) (world : World) :
    IgnoresLog world (generate project config) :=
  IgnoresLog.forM (ignoresLog_generateSection project _)

/-- A section without a generator has no effect. -/
theorem effect_generateSection_unknown {item : String × Value} (h : isKnown item = false)
    (path : String) (tree : FileTree) :
    effect (generateSection project path item) tree = (.ok (), tree) := by
  obtain ⟨name, content⟩ := item
  have hnone : generators.lookup name = none := by simpa [isKnown] using h
  simp only [generateSection, hnone]
  rfl

/-- Configurations come down to their known sections in turn. Neither the log nor the sections
without a generator take part, and it makes no difference where one configuration ends and the next
one begins. -/
theorem effect_generateAll (configs : List Config) (tree : FileTree) :
    effect (generateAll project configs) tree =
      inTurn (configs.flatMap fun config =>
        (config.sections.filter isKnown).map (generateSection project config.path)) tree := by
  rw [generateAll, effect_forM (ignoresLog_generate project)]
  apply inTurn_flatMap
  intro config _ tree'
  rw [generate, effect_forM (ignoresLog_generateSection project config.path), inTurn_filter]
  exact fun item _ hitem => effect_generateSection_unknown project hitem config.path

/-- Configurations whose sections are in order come down to their files and their catalogs. -/
theorem effect_generateAll_known {configs : List Config}
    (h : ∀ config ∈ configs, config.Ordered) (tree : FileTree) :
    effect (generateAll project configs) tree =
      inTurn (configs.flatMap fun config =>
        config.knownSections.map (generateSection project config.path)) tree := by
  rw [effect_generateAll]
  congr 1
  apply List.flatMap_congr
  intro config hconfig
  rw [(h config hconfig).knownSections_eq]

/-- The same for configurations that were read from documents, whatever order these name the
sections in. -/
theorem effect_generateAll_of_parse {configs : List Config}
    (h : ∀ config ∈ configs, ∃ path text, parse path text = .ok config) (tree : FileTree) :
    effect (generateAll project configs) tree =
      inTurn (configs.flatMap fun config =>
        config.knownSections.map (generateSection project config.path)) tree := by
  apply effect_generateAll_known
  intro config hconfig
  obtain ⟨path, text, hparse⟩ := h config hconfig
  exact ordered_of_parse hparse

/-- A configuration that is cut down to one known name has the effect of the sections of this
name in turn. -/
theorem effect_generateAll_only (config : Config) {name : String}
    (hname : name = "files" ∨ name = "xcassets") (tree : FileTree) :
    effect (generateAll project [config.only name]) tree =
      inTurn ((config.only name).sections.map (generateSection project config.path)) tree := by
  have hknown : (config.only name).sections.filter isKnown = (config.only name).sections := by
    rw [List.filter_eq_self]
    intro item hitem
    have hitem' : item.1 = name := by simpa using (List.mem_filter.1 hitem).2
    exact isKnown_iff.2 (hitem' ▸ hname)
  rw [effect_generateAll, List.flatMap_singleton, hknown]
  rfl

/-- What a section holds is generated after a line of the log. -/
theorem effect_generateSection {name : String} {generator : Generator}
    (hgenerator : generators.lookup name = some generator) {content : Value}
    {action : Action Unit} (h : generator project content = .ok action)
    (hlog : ∀ world, IgnoresLog world action) (path : String) (tree : FileTree) :
    effect (generateSection project path (name, content)) tree =
      effect (within ("Failed to generate section '" ++ name ++ "'") action) tree := by
  have hsection : generateSection project path (name, content) = (do
      Action.log .info ("Running '" ++ name ++ "' from " ++ path)
      within ("Failed to generate section '" ++ name ++ "'") action) := by
    simp only [generateSection, hgenerator, h]
    rfl
  rw [hsection, effect_andThen fun world => (hlog world).within]
  rfl

/-- A section fails at its start if it does not hold a list of mappings. -/
theorem effect_generateSection_malformed {content : Value} (h : ¬ ListOfMappings content)
    (path : String) (tree : FileTree) :
    effect (generateSection project path ("files", content)) tree =
      (.error ⟨["Failed to configure section 'files'"], .known (.invalidConfigEntry "files")⟩,
        tree) := by
  rw [generateSection_files, specList_eq_error h]
  rfl

/-- The sections of an asset catalog are generated in turn, and a failure is told with them. -/
theorem effect_generateCatalog (path : String) (sections : Members) (tree : FileTree) :
    effect (generateSection project path ("xcassets", .object sections)) tree =
      underContext "Failed to generate section 'xcassets'"
        (inTurn (sections.map (AssetCatalog.generateSection project)) tree) := by
  have hitem := AssetCatalog.ignoresLog_generateSection project
  have hgenerator : generators.lookup "xcassets" = some AssetCatalog.generator := rfl
  rw [effect_generateSection project hgenerator rfl fun _ => IgnoresLog.forM hitem, effect_within,
    effect_forM hitem]
  rfl

/-- An unknown section of an asset catalog fails behind those of lesser names. Sections are taken in
the order of their keys, and what stands behind the unknown one is never begun. -/
theorem effect_generateCatalog_unknown {sections : Members} (hsections : Keyed.Ascending sections)
    {key : String} {content : Value} (hmem : (key, content) ∈ sections)
    (hkey : AssetCatalog.generators.lookup key = none) (path : String) (tree : FileTree) :
    effect (generateSection project path ("xcassets", .object sections)) tree =
      andThen
        (effect (generateSection project path
          ("xcassets", .object (sections.filter fun item => item.1 < key))) tree)
        fun tree' => (.error ⟨["Failed to generate section 'xcassets'"],
          .known (.invalidConfigEntry key)⟩, tree') := by
  obtain ⟨rest, hrest⟩ := Keyed.exists_append hsections hmem
  have hsplit : sections.map (AssetCatalog.generateSection project) =
      (sections.filter fun item => item.1 < key).map (AssetCatalog.generateSection project) ++
        AssetCatalog.generateSection project (key, content) ::
          rest.map (AssetCatalog.generateSection project) := by
    rw [← List.map_cons, ← List.map_append, ← hrest]
  have hfails := AssetCatalog.effect_generateSection_unknown hkey project content
  rw [effect_generateCatalog, effect_generateCatalog, hsplit, inTurn_append_error hfails,
    underContext_andThen]
  rfl

/-- The laws of sections. All configurations have the effect of their known sections in turn. So
one part after the other has the effect of both, unknown sections do not count, and a configuration
has the effect of its files and then of its catalogs. In an asset catalog an unknown section fails
when all that comes before it is generated. A section fails before anything of it is generated if
it does not hold a list of mappings. -/
theorem sections_inTurn :
    (∀ configs world, (∀ config ∈ configs, config.Ordered) →
      settled (outcome (generateAll project configs) world) =
        inTurn (configs.flatMap fun config =>
          config.knownSections.map (generateSection project config.path)) world.tree) ∧
    (∀ configs later tree,
      effect (generateAll project (configs ++ later)) tree =
        andThen (effect (generateAll project configs) tree)
          (effect (generateAll project later))) ∧
    (∀ configs tree,
      effect (generateAll project (configs.map known)) tree =
        effect (generateAll project configs) tree) ∧
    (∀ (config : Config) tree, config.Ordered →
      effect (generateAll project [config]) tree =
        andThen (effect (generateAll project [config.only "files"]) tree)
          (effect (generateAll project [config.only "xcassets"]))) ∧
    (∀ path sections key content tree, Keyed.Ascending sections → (key, content) ∈ sections →
      AssetCatalog.generators.lookup key = none →
      effect (generateSection project path ("xcassets", .object sections)) tree =
        andThen
          (effect (generateSection project path
            ("xcassets", .object (sections.filter fun item => item.1 < key))) tree)
          fun tree' => (.error ⟨["Failed to generate section 'xcassets'"],
            .known (.invalidConfigEntry key)⟩, tree')) ∧
    (∀ content tree, ¬ ListOfMappings content →
      (∀ path, effect (generateSection project path ("files", content)) tree =
        (.error ⟨["Failed to configure section 'files'"], .known (.invalidConfigEntry "files")⟩,
          tree)) ∧
      ∀ kind : EntryKind, kind.InCatalog →
        effect (AssetCatalog.generateSection project (kind.key, content)) tree =
          (.error (.ofProblem (.invalidConfigEntry kind.key)), tree)) := by
  refine ⟨?known, ?split, ?unknown, ?both, ?inside, ?malformed⟩
  case known =>
    intro configs world hconfigs
    have hlog : IgnoresLog world (generateAll project configs) :=
      IgnoresLog.forM (ignoresLog_generate project)
    rw [← hlog []]
    exact effect_generateAll_known project hconfigs world.tree
  case split =>
    intro configs later tree
    rw [effect_generateAll, effect_generateAll, List.flatMap_append, inTurn_append]
    congr 1
    funext tree'
    rw [effect_generateAll]
  case unknown =>
    intro configs tree
    rw [effect_generateAll, effect_generateAll, List.flatMap_map]
    congr 1
    apply List.flatMap_congr
    intro config _
    rw [known, List.filter_filter]
    simp
  case both =>
    intro config tree hconfig
    rw [effect_generateAll, List.flatMap_singleton, hconfig.filter_isKnown, List.map_append,
      inTurn_append, effect_generateAll_only project config (Or.inl rfl)]
    congr 1
    funext tree'
    rw [effect_generateAll_only project config (Or.inr rfl)]
  case inside =>
    intro path sections key content tree hsections hmem hkey
    exact effect_generateCatalog_unknown project hsections hmem hkey path tree
  case malformed =>
    intro content tree hcontent
    refine ⟨fun path => effect_generateSection_malformed project hcontent path tree, ?_⟩
    intro kind hkind
    exact AssetCatalog.effect_generateSection_malformed hkind hcontent project tree

end

/-- Colours, and a section that an asset catalog does not know. -/
def otherSections : Members :=
  [("colors", .array []), ("other", .null)]

open scoped Template.Engine in
/-- A configuration is its two halves in turn, and the second half fails at its unknown section once
the colours before it are generated. -/
theorem sections_inTurn_other :
    let project : Project := ⟨.ofMembers [], ""⟩
    let config : Config := ⟨"c", [("files", .array []), ("xcassets", .object otherSections)]⟩
    config.Ordered ∧
      settled (outcome (generateAll project [config]) ⟨⟨[], []⟩, []⟩) =
        inTurn (config.knownSections.map (generateSection project "c")) ⟨[], []⟩ ∧
      effect (generateSection project "c" ("xcassets", .object otherSections)) ⟨[], []⟩ =
        (.error ⟨["Failed to generate section 'xcassets'"], .known (.invalidConfigEntry "other")⟩,
          ⟨[], []⟩) := by
  intro project config
  obtain ⟨hknown, -, -, -, hinside, -⟩ := sections_inTurn project
  have hinner : Keyed.Ascending otherSections :=
    ⟨List.forall_mem_singleton.2 (by decide), List.forall_mem_nil _, trivial⟩
  have hordered : config.Ordered := by
    refine ⟨?_, trivial, ⟨hinner, trivial, trivial, trivial⟩, trivial⟩
    exact ⟨List.forall_mem_singleton.2 (by decide), List.forall_mem_nil _, trivial⟩
  refine ⟨hordered, ?_, ?_⟩
  · have hturn := hknown [config] ⟨⟨[], []⟩, []⟩ (by simpa using hordered)
    rwa [List.flatMap_singleton] at hturn
  · rw [hinside "c" otherSections "other" .null ⟨[], []⟩ hinner (by simp [otherSections]) rfl]
    rfl

end Config

end DesignTokens

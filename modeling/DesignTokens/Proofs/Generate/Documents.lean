import DesignTokens.Proofs.Generate.Reading

/-!
# Documents first

A run reads its configurations in the order of its arguments, then the token document, and then it
generates. Both formats are read by the same four steps, and each step has its own failure
(`Format.Refuses`); a document behind which none of them stands `Holds` a mapping. Reading leaves
the tree alone (`Gives`), so what decides a run is the tree at its start: it is refused by the first
document that cannot be loaded, or generates from the documents as that tree holds them
(`Run.execute_documents`), whatever is written over their files meanwhile.
-/

set_option autoImplicit false

namespace DesignTokens

open DesignTokens.Action

/-! ### Formats -/

/-- A kind of document: the problem of a missing one, how its text is decoded, and the reason to
refuse what is no mapping. -/
structure Format where
  missing : String → Problem
  decode : String → Except String Value
  notMapping : Value → String

namespace Format

/-- Configurations, in YAML. -/
def configuration : Format where
  missing := .missingConfiguration
  decode text := (Yaml.decode text).mapError (·.message)
  notMapping value := "the configuration must be a mapping, found " ++ value.kindName

/-- Token documents, in JSON. -/
def token : Format where
  missing := .missingToken
  decode text := (Value.decode text).mapError (·.message)
  notMapping _ := "the token document must be a JSON object"

/-- The members of the mapping that a text decodes to; `path` names it in problems. -/
def read (format : Format) (path text : String) : Except Problem Members :=
  match format.decode text with
  | .error reason => .error (.decodeFailure path reason)
  | .ok (.object members) => .ok members
  | .ok value => .error (.decodeFailure path (format.notMapping value))

/-- The document at the path is not there, cannot be read, cannot be decoded, or is no mapping; with
the failure to load it. -/
inductive Refuses (format : Format) (tree : FileTree) (path : String) : Failure → Prop
  | missing (hpresent : tree.present path = false) :
    Refuses format tree path (.ofProblem (format.missing path))
  | unreadable {fault : FileFault} (hpresent : tree.present path = true)
    (hread : tree.readText path = .error fault) :
    Refuses format tree path (.ofFault ("Failed to read file: " ++ path) fault)
  | malformed {text reason : String} (hpresent : tree.present path = true)
    (hread : tree.readText path = .ok text) (hdecode : format.decode text = .error reason) :
    Refuses format tree path (.ofProblem (.decodeFailure path reason))
  | notMapping {text : String} {value : Value} (hpresent : tree.present path = true)
    (hread : tree.readText path = .ok text) (hdecode : format.decode text = .ok value)
    (hvalue : value.members? = none) :
    Refuses format tree path (.ofProblem (.decodeFailure path (format.notMapping value)))

/-- The document at the path decodes to a mapping with the members. -/
structure Holds (format : Format) (tree : FileTree) (path : String) (members : Members) :
    Prop where
  present : tree.present path = true
  decoded : ∃ text, tree.readText path = .ok text ∧ format.decode text = .ok (.object members)

section
variable {format : Format} {tree : FileTree} {path : String}

/-- A document is either refused or held, and there is no third way. -/
theorem refuses_or_holds (format : Format) (tree : FileTree) (path : String) :
    (∃ failure, format.Refuses tree path failure) ∨ ∃ members, format.Holds tree path members := by
  cases hpresent : tree.present path with
  | false => exact .inl ⟨_, .missing hpresent⟩
  | true =>
    cases hread : tree.readText path with
    | error fault => exact .inl ⟨_, .unreadable hpresent hread⟩
    | ok text =>
      cases hdecode : format.decode text with
      | error reason => exact .inl ⟨_, .malformed hpresent hread hdecode⟩
      | ok value =>
        cases value with
        | object members => exact .inr ⟨members, hpresent, text, hread, hdecode⟩
        | _ => exact .inl ⟨_, .notMapping hpresent hread hdecode rfl⟩

/-- A loader that begins with the steps of its format fails where one of them does. -/
theorem Refuses.gives {failure : Failure} (h : format.Refuses tree path failure) {α : Type}
    {make : Members → α} {next : String → Action α}
    (hnext : ∀ text, Gives (next text) tree
      (((format.read path text).map make).mapError .ofProblem)) :
    Gives (do
      require (·.present path) (.ofProblem (format.missing path))
      let text ← readText path
      next text) tree (.error failure) := by
  have hfound (hpresent : tree.present path = true) :
      Gives (require (·.present path) (.ofProblem (format.missing path))) tree (.ok ()) := by
    simpa [hpresent] using gives_require (·.present path) _ tree
  have hgives := gives_readText path tree
  cases h with
  | missing hpresent =>
    apply Gives.bind_error
    simpa [hpresent] using gives_require (·.present path) _ tree
  | unreadable hpresent hread =>
    rw [hread] at hgives
    exact (hfound hpresent).bind (hgives.bind_error _)
  | @malformed text reason hpresent hread hdecode =>
    rw [hread] at hgives
    have htext := hnext text
    rw [read, hdecode] at htext
    exact (hfound hpresent).bind (hgives.bind htext)
  | @notMapping text value hpresent hread hdecode hvalue =>
    rw [hread] at hgives
    have htext := hnext text
    rw [read, hdecode] at htext
    refine (hfound hpresent).bind (hgives.bind ?_)
    cases value with
    | object members => cases hvalue
    | _ => exact htext

/-- Otherwise it makes what it loads from the members: the document is there, its text can be read,
and the format has no complaint. -/
theorem Holds.gives {members : Members} (h : format.Holds tree path members) {α : Type}
    {make : Members → α} {next : String → Action α}
    (hnext : ∀ text, Gives (next text) tree
      (((format.read path text).map make).mapError .ofProblem)) :
    Gives (do
      require (·.present path) (.ofProblem (format.missing path))
      let text ← readText path
      next text) tree (.ok (make members)) := by
  obtain ⟨text, hread, hdecode⟩ := h.decoded
  have hfound := gives_require (·.present path) (.ofProblem (format.missing path)) tree
  have hgives := gives_readText path tree
  have htext := hnext text
  rw [h.present] at hfound
  rw [hread] at hgives
  rw [read, hdecode] at htext
  exact hfound.bind (hgives.bind htext)

end

end Format

/-! ### Loading -/

/-- Parsing a configuration is reading its format, with the path kept beside the sections. -/
theorem Config.parse_eq (path text : String) :
    parse path text = (Format.configuration.read path text).map (⟨path, ·⟩) := by
  have hdecode : Format.configuration.decode text = (Yaml.decode text).mapError (·.message) := rfl
  rw [parse, Format.read, hdecode]
  cases Yaml.decode text with
  | error fault => rfl
  | ok value => cases value <;> rfl

/-- What is behind the reading of a configuration: parsing its text, and a line of the log. -/
theorem Config.gives_parsed (tree : FileTree) (path text : String) :
    Gives (do
      let config ← Action.ofExcept (parse path text)
      Action.log .debug ("Loaded configuration from " ++ path ++ " (" ++
        toString config.sections.length ++ " sections)")
      return config) tree
      (((Format.configuration.read path text).map (⟨path, ·⟩)).mapError .ofProblem) := by
  have hparse := gives_ofExcept (parse path text) tree
  rw [parse_eq] at hparse ⊢
  cases hread : Format.configuration.read path text with
  | error problem =>
    rw [hread] at hparse
    exact hparse.bind_error _
  | ok members =>
    rw [hread] at hparse
    exact hparse.bind (Gives.log_bind (gives_pure _))

/-- What is behind the reading of a token document. The text is decoded and then looked at as a
document, with a line of the log in between. -/
theorem DesignToken.gives_parsed (tree : FileTree) (path text : String) :
    Gives (do
      let value ← Action.ofExcept (decodeText path text)
      Action.log .debug ("Loaded design token from " ++ path)
      Action.ofExcept (ofDecoded path value)) tree
      (((Format.token.read path text).map ofMembers).mapError .ofProblem) := by
  have hdecode : Format.token.decode text = (Value.decode text).mapError (·.message) := rfl
  have hgives := gives_ofExcept (decodeText path text) tree
  rw [decodeText] at hgives ⊢
  rw [Format.read, hdecode]
  cases hvalue : Value.decode text with
  | error fault =>
    rw [hvalue] at hgives
    exact hgives.bind_error _
  | ok value =>
    rw [hvalue] at hgives
    have hmembers := gives_ofExcept (ofDecoded path value) tree
    refine hgives.bind (Gives.log_bind ?_)
    cases value <;> exact hmembers

/-- A configuration is loaded from what its file holds. -/
theorem Config.gives_load {tree : FileTree} {path : String} :
    (∀ failure, Format.configuration.Refuses tree path failure →
      Gives (load path) tree (.error failure)) ∧
    ∀ members, Format.configuration.Holds tree path members →
      Gives (load path) tree (.ok ⟨path, members⟩) := by
  rw [load_eq]
  exact ⟨fun _ h => h.gives (gives_parsed tree path), fun _ h => h.gives (gives_parsed tree path)⟩

/-- A token document is loaded as the tree holds it, or refused for the reason that stands against
it. -/
theorem DesignToken.gives_load {tree : FileTree} {path : String} :
    (∀ failure, Format.token.Refuses tree path failure →
      Gives (load path) tree (.error failure)) ∧
    ∀ members, Format.token.Holds tree path members →
      Gives (load path) tree (.ok (.ofMembers members)) := by
  rw [load_eq]
  exact ⟨fun _ h => h.gives (gives_parsed tree path), fun _ h => h.gives (gives_parsed tree path)⟩

namespace Run

/-- The run is refused because of the first of its documents that cannot be loaded. The
configurations come first, in the order of the arguments. -/
inductive Refused (run : Run) (directory : String) (tree : FileTree) : Failure → Prop
  | configuration {before after : List String} {path : String} {failure : Failure}
    (hconfigs : run.configs = before ++ path :: after)
    (hbefore : ∀ other ∈ before, ∃ members,
      Format.configuration.Holds tree (Path.join directory other) members)
    (hpath : Format.configuration.Refuses tree (Path.join directory path) failure) :
    Refused run directory tree failure
  | token {failure : Failure}
    (hconfigs : ∀ path ∈ run.configs, ∃ members,
      Format.configuration.Holds tree (Path.join directory path) members)
    (htoken : Format.token.Refuses tree (Path.join directory run.token) failure) :
    Refused run directory tree failure

/-- The documents of the run as a tree holds them. -/
structure Documents (run : Run) (directory : String) (tree : FileTree) (configs : List Config)
    (token : DesignToken) : Prop where
  configs : List.Forall₂
    (fun path (config : Config) => config.path = Path.join directory path ∧
      Format.configuration.Holds tree config.path config.sections)
    run.configs configs
  token : ∃ members, token = .ofMembers members ∧
    Format.token.Holds tree (Path.join directory run.token) members

section
variable {run : Run} {directory : String} {tree : FileTree}

/-- Paths of documents that hold mappings, up to the first that does not. Each document is refused
or holds members, so the first refused one can be found along the list. -/
theorem held_or_refused (format : Format) (directory : String) (tree : FileTree)
    (paths : List String) :
    (∀ path ∈ paths, ∃ members, format.Holds tree (Path.join directory path) members) ∨
      ∃ before path after failure, paths = before ++ path :: after ∧
        (∀ other ∈ before, ∃ members, format.Holds tree (Path.join directory other) members) ∧
        format.Refuses tree (Path.join directory path) failure := by
  induction paths with
  | nil => exact .inl (List.forall_mem_nil _)
  | cons first paths ih =>
    rcases format.refuses_or_holds tree (Path.join directory first) with ⟨failure, hfirst⟩ | hfirst
    · exact .inr ⟨[], first, paths, failure, rfl, List.forall_mem_nil _, hfirst⟩
    rcases ih with hall | ⟨before, path, after, failure, rfl, hbefore, hpath⟩
    · exact .inl (List.forall_mem_cons.2 ⟨hfirst, hall⟩)
    · exact .inr ⟨first :: before, path, after, failure, rfl,
        List.forall_mem_cons.2 ⟨hfirst, hbefore⟩, hpath⟩

/-- The configurations that the paths hold. -/
theorem exists_configs {paths : List String}
    (h : ∀ path ∈ paths, ∃ members,
      Format.configuration.Holds tree (Path.join directory path) members) :
    ∃ configs : List Config, List.Forall₂
      (fun path (config : Config) => config.path = Path.join directory path ∧
        Format.configuration.Holds tree config.path config.sections) paths configs := by
  induction paths with
  | nil => exact ⟨[], .nil⟩
  | cons path paths ih =>
    obtain ⟨⟨members, hmembers⟩, hpaths⟩ := List.forall_mem_cons.1 h
    obtain ⟨configs, hconfigs⟩ := ih hpaths
    exact ⟨⟨Path.join directory path, members⟩ :: configs, .cons ⟨rfl, hmembers⟩ hconfigs⟩

/-- A run is refused or has its documents. -/
theorem refused_or_documents (run : Run) (directory : String) (tree : FileTree) :
    (∃ failure, run.Refused directory tree failure) ∨
      ∃ configs token, run.Documents directory tree configs token := by
  rcases held_or_refused .configuration directory tree run.configs with
    hheld | ⟨before, path, after, failure, hconfigs, hbefore, hpath⟩
  · rcases Format.token.refuses_or_holds tree (Path.join directory run.token) with
      ⟨failure, htoken⟩ | ⟨members, htoken⟩
    · exact .inl ⟨failure, .token hheld htoken⟩
    · obtain ⟨configs, hconfigs⟩ := exists_configs hheld
      exact .inr ⟨configs, .ofMembers members, hconfigs, members, rfl, htoken⟩
  · exact .inl ⟨failure, .configuration hconfigs hbefore hpath⟩

/-- If every configuration is held, all of them are loaded in their order. -/
theorem gives_configs {paths : List String} {configs : List Config}
    (h : List.Forall₂
      (fun path (config : Config) => config.path = Path.join directory path ∧
        Format.configuration.Holds tree config.path config.sections) paths configs) :
    Gives (paths.mapM fun path => Config.load (Path.join directory path)) tree (.ok configs) := by
  apply gives_mapM
  apply h.imp
  rintro path ⟨_, sections⟩ ⟨rfl, hsections⟩
  exact Config.gives_load.2 sections hsections

/-- A run whose documents are refused ends with that failure. -/
theorem Refused.gives {failure : Failure} (h : run.Refused directory tree failure) :
    Gives (run.load directory) tree (.error failure) := by
  cases h with
  | configuration hconfigs hbefore hpath =>
    rw [load, hconfigs]
    apply Gives.bind_error
    refine gives_mapM_error ?_ (Config.gives_load.1 failure hpath)
    intro other hother
    obtain ⟨members, hmembers⟩ := hbefore other hother
    exact ⟨_, Config.gives_load.2 members hmembers⟩
  | token hheld htoken =>
    obtain ⟨configs, hconfigs⟩ := exists_configs hheld
    refine (gives_configs hconfigs).bind (Gives.bind_error ?_ _)
    exact DesignToken.gives_load.1 failure htoken

/-- A run whose documents are all held loads exactly them. -/
theorem Documents.gives {configs : List Config} {token : DesignToken}
    (h : run.Documents directory tree configs token) :
    Gives (run.load directory) tree (.ok (configs, token)) := by
  obtain ⟨members, rfl, htoken⟩ := h.token
  refine (gives_configs h.configs).bind (Gives.bind ?_ (gives_pure _))
  exact DesignToken.gives_load.2 members htoken

end

/-- Lines of the log around the generation make no difference. What it comes to is its effect on the
tree, as no generator looks at the log. -/
theorem settled_generated [Template.Engine] (project : Project) (configs : List Config)
    (loaded done : String)
    (world : World) :
    settled (outcome (do
      Action.log .debug loaded
      Config.generateAll project configs
      Action.log .info done) world) = effect (Config.generateAll project configs) world.tree := by
  have hlog (start : World) : IgnoresLog start (Config.generateAll project configs) :=
    IgnoresLog.forM (Config.ignoresLog_generate project)
  have hrest (start : World) : IgnoresLog start (do
      Config.generateAll project configs
      Action.log .info done) :=
    (hlog start).bind fun _ _ _ _ => rfl
  have hall : IgnoresLog world (do
      Action.log .debug loaded
      Config.generateAll project configs
      Action.log .info done) :=
    IgnoresLog.bind (fun _ => rfl) fun _ start _ => hrest start
  rw [← hall []]
  show effect _ world.tree = _
  rw [effect_log_bind _ _ hrest, effect_bind_log]

/-- What decides a run is the tree at its start. If one of the documents is refused there, the run
fails with the failure to load the first such document, and the tree is as it was. Otherwise the
run comes to what its configurations generate from the token document as they were at the start. -/
theorem execute_documents [Template.Engine] (run : Run) (directory : String) (world : World) :
    (∀ failure, run.Refused directory world.tree failure →
      settled (outcome (run.execute directory) world) = (.error failure, world.tree)) ∧
    (∀ configs token, run.Documents directory world.tree configs token →
      settled (outcome (run.execute directory) world) =
        effect (Config.generateAll ⟨token, directory⟩ configs) world.tree) ∧
    ((∃ failure, run.Refused directory world.tree failure) ∨
      ∃ configs token, run.Documents directory world.tree configs token) := by
  refine ⟨?refused, ?documents, refused_or_documents run directory world.tree⟩
  case refused =>
    intro failure hrefused
    obtain ⟨log', houtcome⟩ := (hrefused.gives.bind_error _) world.log
    rw [execute_eq, houtcome]
    rfl
  case documents =>
    intro configs token hdocuments
    obtain ⟨log', hload⟩ := hdocuments.gives world.log
    rw [execute_eq, outcome_bind, hload]
    exact settled_generated ⟨token, directory⟩ configs _ _ ⟨world.tree, log'⟩

/-- The text of a configuration that has the template `x` written to a path. -/
def overwriteText (path : String) : String :=
  "\x7b\"files\":[\x7b\"inputs\":[],\"outputs\":[\x7b\"template\":\"x\",\"output\":\"" ++ path ++
    "\"\x7d]\x7d]\x7d"

/-- What that configuration holds. -/
def overwriteSections (path : String) : Members :=
  [("files", .array [.object [("inputs", .array []),
    ("outputs", .array [.object [("output", .string path), ("template", .string "x")]])]])]

/-- A configuration `c` that overwrites the configuration `d`, which overwrites the token
document. -/
def overwritingTree : FileTree :=
  ⟨[(["c"], .file (overwriteText "d").toUTF8), (["d"], .file (overwriteText "t").toUTF8),
    (["t"], .file "\x7b\x7d".toUTF8), (["x"], .file "x".toUTF8)], []⟩

/-- The three documents of the fixture can all be read. -/
theorem holds_overwriteText :
    Format.configuration.Holds overwritingTree "c" (overwriteSections "d") ∧
      Format.configuration.Holds overwritingTree "d" (overwriteSections "t") ∧
      Format.token.Holds overwritingTree "t" [] :=
  ⟨⟨by decide +kernel, overwriteText "d", by decide +kernel, by decide +kernel⟩,
    ⟨by decide +kernel, overwriteText "t", by decide +kernel, by decide +kernel⟩,
    ⟨by decide +kernel, "\x7b\x7d", by decide +kernel, by decide +kernel⟩⟩

open scoped Template.Engine in
/-- Both configurations do what they said at the start, also the one that is overwritten by then. If
the run names a token document that is not there, nothing is overwritten. -/
theorem execute_documents_overwriting :
    (∃ configs token,
      Documents ⟨["c", "d"], "t"⟩ "" overwritingTree configs token ∧
      settled (outcome (execute ⟨["c", "d"], "t"⟩ "") ⟨overwritingTree, []⟩) =
        effect (Config.generateAll ⟨token, ""⟩ configs) overwritingTree) ∧
    (∀ path ∈ ["d", "t"],
      (outcome (execute ⟨["c", "d"], "t"⟩ "") ⟨overwritingTree, []⟩).2.tree.readText path =
        .ok "x") ∧
    settled (outcome (execute ⟨["c", "d"], "u"⟩ "") ⟨overwritingTree, []⟩) =
      (.error (.ofProblem (.missingToken "u")), overwritingTree) := by
  obtain ⟨hfirst, hsecond, htoken⟩ := holds_overwriteText
  refine ⟨⟨[⟨"c", overwriteSections "d"⟩, ⟨"d", overwriteSections "t"⟩], .ofMembers [], ?_⟩, ?_, ?_⟩
  · have hdocuments : Documents ⟨["c", "d"], "t"⟩ "" overwritingTree
        [⟨"c", overwriteSections "d"⟩, ⟨"d", overwriteSections "t"⟩] (.ofMembers []) :=
      ⟨.cons ⟨rfl, hfirst⟩ (.cons ⟨rfl, hsecond⟩ .nil), [], rfl, htoken⟩
    exact ⟨hdocuments, (execute_documents _ "" ⟨overwritingTree, []⟩).2.1 _ _ hdocuments⟩
  · decide +kernel
  · apply (execute_documents _ "" ⟨overwritingTree, []⟩).1
    refine .token ?_ (.missing (by decide +kernel))
    exact List.forall_mem_cons.2 ⟨⟨_, hfirst⟩, List.forall_mem_singleton.2 ⟨_, hsecond⟩⟩

end Run

end DesignTokens

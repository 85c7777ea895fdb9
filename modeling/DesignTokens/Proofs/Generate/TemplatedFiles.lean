import DesignTokens.Proofs.Config.Key
import DesignTokens.Proofs.Failure.Blame
import DesignTokens.Proofs.Generate.Reading
import DesignTokens.Proofs.Token.Groups

/-!
# Entries of templated files fail cleanly

An entry of the section `files` reads before it writes, and so does each of its outputs. First all
inputs of the entry are resolved (`prepared`); then an output is rendered as a whole from the tree
that it meets (`rendered`), and only its text is written. Both are functions of the tree, and the
effects of entries and outputs come down to them (`effect_generate`, `effect_renderOutput`).

Writing fails with no problem that the program knows (`unforeseen_writeText`). So an output that
fails with one has written nothing, and its entry leaves the tree that the outputs before it leave
(`generate_fails_cleanly`).
-/

set_option autoImplicit false

namespace DesignTokens

open DesignTokens.Action DesignTokens.FileTree
open DesignTokens.Template (Engine)

namespace Action

/-- The cause of the failure is no problem that the program knows. -/
def Unforeseen (failure : Failure) : Prop :=
  ∀ problem, failure.cause ≠ .known problem

/-- A write can only fail over the files: no foreseen problem is ever its fault. So a failure with a
known problem came up before anything of the output was written. -/
theorem unforeseen_writeText (path content : String) :
    (writeText path content).FailsOnly Unforeseen :=
  failsOnly_writeText (fun _ _ _ => Cause.noConfusion) (fun _ _ => Cause.noConfusion) path content

end Action

/-! ### Templates -/

namespace TemplateSource

/-- The source of a reference, among the bundled templates and the files of a tree. -/
def find (tree : FileTree) (reference directory : String) : Except Problem TemplateSource :=
  match BundledTemplate.find? reference with
  | some template => .ok (.bundled template)
  | none =>
    if tree.isFile (Path.join directory reference) then .ok (.file (Path.join directory reference))
    else .error (.missingTemplate reference)

/-- The text of a source as a tree has it. -/
def textIn (tree : FileTree) : TemplateSource → Except Failure String
  | .bundled template => .ok template.content
  | .file path => (tree.readText path).mapError (.ofFault ("Failed to read file: " ++ path))

/-- A source rendered as a tree has it. -/
def renderedIn [Engine] (tree : FileTree) (source : TemplateSource) (context : Members) :
    Except Failure String := do
  let text ← source.textIn tree
  (Template.render source.name text context).mapError .ofProblem

/-- The name of a template is looked up as the plain function on the tree does it, and the world
stays as it was. -/
theorem gives_resolve (tree : FileTree) (reference directory : String) :
    Gives (resolve reference directory) tree
      ((find tree reference directory).mapError .ofProblem) := by
  cases hfind : BundledTemplate.find? reference with
  | some template =>
    rw [resolve, find, hfind]
    exact gives_pure _
  | none =>
    have hrequire := gives_require (·.isFile (Path.join directory reference))
      (.ofProblem (.missingTemplate reference)) tree
    rw [resolve_eq hfind, find, hfind]
    cases hfile : tree.isFile (Path.join directory reference) with
    | true =>
      rw [hfile] at hrequire
      exact hrequire.bind (gives_pure _)
    | false =>
      rw [hfile] at hrequire
      exact hrequire.bind_error _

/-- The text of a template is what the tree holds at its path, or the text that came with the
program. -/
theorem gives_load (tree : FileTree) (source : TemplateSource) :
    Gives source.load tree (source.textIn tree) := by
  cases source with
  | bundled template => exact gives_pure _
  | file path => exact gives_readText path tree

/-- Rendering into a file is rendering from the tree, and then writing. -/
theorem effect_renderTo [Engine] (source : TemplateSource) (context : Members) (output : String)
    (tree : FileTree) :
    effect (source.renderTo context output) tree =
      resume (source.renderedIn tree context) tree fun text =>
        effect (writeText output text) tree := by
  have hreads : Gives (do
      Action.log .debug ("Rendering template '" ++ source.name ++ "' to " ++ output)
      let text ← source.load
      Action.ofExcept (Template.render source.name text context)) tree
      (source.renderedIn tree context) :=
    Gives.log_bind ((gives_load tree source).then fun text => gives_ofExcept _ tree)
  rw [← hreads.effect_bind fun text => ignoresLog_writeText output text, renderTo]
  simp only [bind_assoc]

end TemplateSource

namespace TemplatedFile

/-! ### Outputs -/

/-- The destination of an output and the source of its template, as a tree has it. -/
def target (directory : String) (tree : FileTree) (output : Value) :
    Except Problem (String × TemplateSource) := do
  let reference ← templateKey.required Shape.string (some output)
  let destination ← outputKey.required Shape.string (some output)
  let source ← TemplateSource.find tree reference directory
  return (destination, source)

/-- The destination of an output and the text for it, as a tree has its template. -/
def rendered [Engine] (directory : String) (inputs : List Value) (tree : FileTree)
    (output : Value) :
    Except Failure (String × String) := do
  let (destination, source) ← (target directory tree output).mapError .ofProblem
  let text ← (source.renderedIn tree (context inputs output)).mapError
    (·.addContext ("Failed to generate " ++ destination))
  return (destination, text)

/-- What an output begins with. -/
def findTarget (directory : String) (output : Value) : Action (String × TemplateSource) := do
  let template ← Action.ofExcept (templateKey.required Shape.string (some output))
  let destination ← Action.ofExcept (outputKey.required Shape.string (some output))
  let source ← TemplateSource.resolve template directory
  return (destination, source)

/-- The path and the template of an output are found without a change to the tree. -/
theorem gives_findTarget (directory : String) (output : Value) (tree : FileTree) :
    Gives (findTarget directory output) tree
      ((target directory tree output).mapError .ofProblem) :=
  (gives_ofExcept _ tree).then_ofProblem fun reference =>
    (gives_ofExcept _ tree).then_ofProblem fun _ =>
      (TemplateSource.gives_resolve tree reference directory).then_ofProblem fun _ => gives_pure _

section
variable [Engine] (directory : String) (inputs : List Value) (output : Value) (tree : FileTree)

/-- What an output goes on with. -/
def renderTarget (found : String × TemplateSource) : Action Unit := do
  let path := Path.join directory found.1
  Action.within ("Failed to generate " ++ found.1)
    (found.2.renderTo (context inputs output) path)
  Action.log .info ("Generated " ++ path)

/-- An output is first looked up and then rendered and written. The first half only reads, the
second does not look at the configuration any more. -/
theorem renderOutput_eq : renderOutput directory inputs output =
    (findTarget directory output >>= renderTarget directory inputs output) := by
  simp only [renderOutput, findTarget, renderTarget, bind_assoc, pure_bind]

/-- What was reported before has no influence on what an output that is found renders to, and on
what it writes. -/
theorem ignoresLog_renderTarget (found : String × TemplateSource) (world : World) :
    IgnoresLog world (renderTarget directory inputs output found) :=
  (ignoresLog_renderTo _ _ _ world).within.bind fun _ _ _ _ => rfl

/-- The same for an output from its configuration on. -/
theorem ignoresLog_renderOutput (world : World) :
    IgnoresLog world (renderOutput directory inputs output) :=
  inherited_ignoresLog.renderOutput (serves_ignoresLog world.tree _)

/-- An output is rendered as a whole, and then written. A failure up to the end of rendering leaves
the tree, and one of the write is reported with the path of the output. -/
theorem effect_renderOutput :
    effect (renderOutput directory inputs output) tree =
      resume (rendered directory inputs tree output) tree fun (destination, text) =>
        underContext ("Failed to generate " ++ destination)
          (effect (writeText (Path.join directory destination) text) tree) := by
  rw [renderOutput_eq, (gives_findTarget directory output tree).effect_bind
    (ignoresLog_renderTarget directory inputs output), rendered]
  cases target directory tree output with
  | error problem => rfl
  | ok found =>
    show effect (renderTarget directory inputs output found) tree = _
    rw [renderTarget, effect_bind_log, effect_within, TemplateSource.effect_renderTo]
    simp only [Result.mapError_ok, bind, Except.bind]
    cases found.2.renderedIn tree (context inputs output) <;> rfl

end

/-! ### Inputs -/

/-- An input that cannot be resolved, with its problem: it does not name keys, or they do not lead
to an object of the token document. -/
inductive Unresolved (token : DesignToken) (input : Value) : Problem → Prop
  | noKeys (hkeys : keysKey.optional? Shape.strings (some input) = none) :
    Unresolved token input (.missingRequiredKey keysKey.name keysKey.guidance)
  | noSubtoken {keys : List String}
    (hkeys : keysKey.optional? Shape.strings (some input) = some keys)
    (hsubtoken : ∀ group, token.subToken keys ≠ .ok group) :
    Unresolved token input (.subtokenNotFound keys)

/-- Reading an input fails with exactly the problems that the relation lists, so the relation can
stand in statements for the function. -/
theorem resolve_eq_error_iff {token : DesignToken} {input : Value} {problem : Problem} :
    resolve token input = .error problem ↔ Unresolved token input problem := by
  simp only [resolve, Result.bind_eq_error_iff, Key.required_eq_ok_iff, Key.required_eq_error_iff,
    DesignToken.values_eq_error_iff]
  constructor
  · rintro (⟨hkeys, rfl⟩ | ⟨keys, hkeys, ⟨hsubtoken, rfl⟩ | ⟨values, -, hpure⟩⟩)
    · exact .noKeys hkeys
    · exact .noSubtoken hkeys hsubtoken
    · cases hpure
  · rintro (hkeys | ⟨hkeys, hsubtoken⟩)
    · exact .inl ⟨hkeys, rfl⟩
    · exact .inr ⟨_, hkeys, .inl ⟨hsubtoken, rfl⟩⟩

/-- What templates see of an input that is resolved. -/
def shownInput (token : DesignToken) (input : Value) : Except Problem Value := do
  let (_, values) ← resolve token input
  return shown input values

/-- The value that templates see for an input comes from the document alone. -/
theorem gives_resolveInput (token : DesignToken) (input : Value) (tree : FileTree) :
    Gives (resolveInput token input) tree ((shownInput token input).mapError .ofProblem) :=
  (gives_ofExcept _ tree).then_ofProblem fun _ => Gives.log_bind (gives_pure _)

/-! ### Entries -/

/-- What templates see of the inputs of an entry, and the outputs. -/
def prepared (token : DesignToken) (entry : Value) : Except Problem (List Value × List Value) := do
  let inputs ← listUnder "inputs" entry
  let outputs ← listUnder "outputs" entry
  let data ← inputs.mapM (shownInput token)
  return (data, outputs)

/-- What an entry begins with. -/
def prepare (token : DesignToken) (entry : Value) : Action (List Value × List Value) := do
  let inputs ← Action.ofExcept (listUnder "inputs" entry)
  let outputs ← Action.ofExcept (listUnder "outputs" entry)
  let data ← inputs.mapM (resolveInput token)
  return (data, outputs)

/-- A templated section first prepares its inputs and outputs and then renders the outputs in their
order. -/
theorem generate_eq [Engine] (project : Project) (entry : Value) :
    generate project entry = (do
      let (data, outputs) ← prepare project.token entry
      outputs.forM (renderOutput project.directory data)) := by
  simp only [generate, prepare, bind_assoc, pure_bind]

/-- Preparing a section changes nothing in the tree. -/
theorem gives_prepare (token : DesignToken) (entry : Value) (tree : FileTree) :
    Gives (prepare token entry) tree ((prepared token entry).mapError .ofProblem) :=
  (gives_ofExcept _ tree).then_ofProblem fun inputs =>
    (gives_ofExcept _ tree).then_ofProblem fun _ =>
      (gives_mapM_ofProblem (gives_resolveInput token · tree) inputs).then_ofProblem fun _ =>
        gives_pure _

/-- An entry is prepared as a whole, and then its outputs follow in turn. A problem of the inputs so
leaves the tree as it was, and one of an output leaves what the outputs in front of it wrote. -/
theorem effect_generate [Engine] (project : Project) (entry : Value) (tree : FileTree) :
    effect (generate project entry) tree =
      resume ((prepared project.token entry).mapError .ofProblem) tree fun (data, outputs) =>
        inTurn (outputs.map (renderOutput project.directory data)) tree := by
  have houtputs (data : List Value) (output : Value) (world : World) :
      IgnoresLog world (renderOutput project.directory data output) :=
    ignoresLog_renderOutput project.directory data output world
  rw [generate_eq, (gives_prepare project.token entry tree).effect_bind]
  · congr 1
    funext found
    exact effect_forM (houtputs found.1) found.2 tree
  · exact fun found world => IgnoresLog.forM (houtputs found.1)

/-- What keeps an entry from its outputs, with the problem that it fails with: a list is missing, or
an input cannot be resolved and is the first such one. -/
inductive Refused (token : DesignToken) (entry : Value) : Problem → Prop
  | noInputs (hinputs : ∀ items, entry.get? "inputs" ≠ some (.array items)) :
    Refused token entry (.invalidConfigEntry "inputs")
  | noOutputs {inputs : List Value} (hinputs : entry.get? "inputs" = some (.array inputs))
    (houtputs : ∀ items, entry.get? "outputs" ≠ some (.array items)) :
    Refused token entry (.invalidConfigEntry "outputs")
  | input {before after outputs : List Value} {input : Value} {problem : Problem}
    (hinputs : entry.get? "inputs" = some (.array (before ++ input :: after)))
    (houtputs : entry.get? "outputs" = some (.array outputs))
    (hbefore : ∀ other ∈ before, ∀ earlier, ¬ Unresolved token other earlier)
    (hinput : Unresolved token input problem) : Refused token entry problem

/-- Both lists of an entry are there, and all inputs can be resolved. -/
def Ready (token : DesignToken) (entry : Value) : Prop :=
  ∃ inputs outputs, entry.get? "inputs" = some (.array inputs) ∧
    entry.get? "outputs" = some (.array outputs) ∧
    ∀ input ∈ inputs, ∀ problem, ¬ Unresolved token input problem

/-- What a template sees of an input is missing for exactly the reasons for which the input cannot
be read: the changes made for display never fail. -/
theorem shownInput_eq_error_iff {token : DesignToken} {input : Value} {problem : Problem} :
    shownInput token input = .error problem ↔ Unresolved token input problem := by
  rw [← resolve_eq_error_iff, shownInput]
  cases resolve token input <;> simp [bind, Except.bind, pure, Except.pure]

/-- So an input can be shown exactly if no problem stands against reading it. -/
theorem exists_shownInput_iff {token : DesignToken} {input : Value} :
    (∃ seen, shownInput token input = .ok seen) ↔ ∀ problem, ¬ Unresolved token input problem := by
  simp only [← shownInput_eq_error_iff]
  cases shownInput token input <;> simp

/-- An entry that cannot be prepared is refused, for a list that is missing or for the first input
that cannot be read. The list of inputs is looked for first. -/
theorem prepared_eq_error_iff {token : DesignToken} {entry : Value} {problem : Problem} :
    prepared token entry = .error problem ↔ Refused token entry problem := by
  simp only [prepared, Result.bind_eq_error_iff, listUnder_eq_ok_iff, listUnder_eq_error_iff,
    Result.mapM_eq_error_iff, exists_shownInput_iff, shownInput_eq_error_iff]
  constructor
  · rintro (⟨hinputs, rfl⟩ | ⟨inputs, hinputs, ⟨houtputs, rfl⟩ | ⟨outputs, houtputs, hdata⟩⟩)
    · exact .noInputs hinputs
    · exact .noOutputs hinputs houtputs
    · rcases hdata with ⟨before, input, after, rfl, hbefore, hinput⟩ | ⟨data, -, hpure⟩
      · exact .input hinputs houtputs hbefore hinput
      · cases hpure
  · rintro (hinputs | ⟨hinputs, houtputs⟩ | ⟨hinputs, houtputs, hbefore, hinput⟩)
    · exact .inl ⟨hinputs, rfl⟩
    · exact .inr ⟨_, hinputs, .inl ⟨houtputs, rfl⟩⟩
    · exact .inr ⟨_, hinputs, .inr ⟨_, houtputs, .inl ⟨_, _, _, rfl, hbefore, hinput⟩⟩⟩

/-- A section that could be prepared was ready, and what came out of it are the outputs that its
entry lists. -/
theorem prepared_eq_ok {token : DesignToken} {entry : Value} {found : List Value × List Value}
    (h : prepared token entry = .ok found) :
    Ready token entry ∧ entry.get? "outputs" = some (.array found.2) := by
  simp only [prepared, Result.bind_eq_ok_iff, listUnder_eq_ok_iff, Result.mapM_eq_ok_iff] at h
  obtain ⟨inputs, hinputs, outputs, houtputs, data, hdata, hpure⟩ := h
  cases hpure
  refine ⟨⟨inputs, outputs, hinputs, houtputs, ?_⟩, houtputs⟩
  intro input hmem
  obtain ⟨seen, -, hseen⟩ := Result.exists_of_mem_right hdata.flip hmem
  exact exists_shownInput_iff.1 ⟨seen, hseen⟩

/-- An entry with other outputs than its own. -/
def withOutputs (entry : Value) (outputs : List Value) : Value :=
  match entry with
  | .object members => .object (Keyed.insert "outputs" (.array outputs) members)
  | other => other

/-- The outputs make no difference to the inputs. So an entry can be compared with the same entry up
to some output. -/
theorem prepared_withOutputs {token : DesignToken} {entry : Value} {outputs : List Value}
    (h : entry.get? "outputs" = some (.array outputs)) (others : List Value) :
    prepared token (withOutputs entry others) =
      (prepared token entry).map fun found => (found.1, others) := by
  cases entry with
  | object members =>
    have hinputs : (withOutputs (.object members) others).get? "inputs" =
        (Value.object members).get? "inputs" :=
      Keyed.lookup_insert_of_ne (by decide) _ _
    have houtputs : (withOutputs (.object members) others).get? "outputs" =
        some (.array others) :=
      Keyed.lookup_insert_self _ _ _
    have hothers := listUnder_eq_ok_iff.2 houtputs
    have hown := listUnder_eq_ok_iff.2 h
    -- the inputs stand under a key of their own
    have hlist : listUnder "inputs" (withOutputs (.object members) others) =
        listUnder "inputs" (.object members) := by
      rw [listUnder, hinputs, listUnder]
    rw [prepared, prepared, hothers, hown, hlist]
    cases listUnder "inputs" (.object members) with
    | error problem => rfl
    | ok inputs =>
      simp only [bind, Except.bind]
      cases inputs.mapM (shownInput token) <;> rfl
  | _ => cases h

/-- The template of an output is a file of the tree that cannot be read. -/
def Unreadable (directory : String) (tree : FileTree) (output : Value) : Prop :=
  ∃ reference fault, templateKey.optional? Shape.string (some output) = some reference ∧
    BundledTemplate.find? reference = none ∧
    tree.readText (Path.join directory reference) = .error fault

/-- An output fails with a known problem, or because its template cannot be read. -/
def Clean (directory : String) (tree : FileTree) (output : Value) (failure : Failure) : Prop :=
  (∃ problem, failure.cause = .known problem) ∨ Unreadable directory tree output

/-- A failure that blames a template has a known problem. -/
theorem clean_of_template? {failure : Failure} {template : String}
    (h : failure.template? = some template) (directory : String) (tree : FileTree)
    (output : Value) : Clean directory tree output failure := by
  unfold Failure.template? at h
  split at h
  · rename_i problem hknown
    exact .inl ⟨problem, hknown⟩
  · cases h

/-- An output whose template cannot be read renders to nothing, whatever its inputs are: the text of
the template comes before any of them. -/
theorem not_rendered_of_unreadable [Engine] {directory : String} {tree : FileTree} {output : Value}
    (h : Unreadable directory tree output) (inputs : List Value) (found : String × String) :
    rendered directory inputs tree output ≠ .ok found := by
  obtain ⟨reference, fault, hreference, hfind, hread⟩ := h
  intro hrendered
  obtain ⟨⟨destination, source⟩, htarget, hbelow⟩ := Result.bind_eq_ok_iff.1 hrendered
  obtain ⟨text, htext, -⟩ := Result.bind_eq_ok_iff.1 hbelow
  obtain ⟨other, hother, hbelow⟩ :=
    Result.bind_eq_ok_iff.1 (Result.mapError_eq_ok_iff.1 htarget)
  obtain ⟨_, -, hbelow⟩ := Result.bind_eq_ok_iff.1 hbelow
  obtain ⟨located, hlocated, hpure⟩ := Result.bind_eq_ok_iff.1 hbelow
  cases hpure
  obtain rfl : other = reference :=
    Option.some.inj ((Key.required_eq_ok_iff.1 hother).symm.trans hreference)
  -- what is not bundled is found as a file only, and that is the file that cannot be read
  have hfile : source = .file (Path.join directory other) := by
    rw [TemplateSource.find, hfind] at hlocated
    dsimp only at hlocated
    split at hlocated
    · cases hlocated
      rfl
    · cases hlocated
  obtain ⟨content, hcontent, -⟩ := Result.bind_eq_ok_iff.1 (Result.mapError_eq_ok_iff.1 htext)
  rw [hfile, TemplateSource.textIn, hread] at hcontent
  cases hcontent

/-- An output that fails cleanly has written nothing. A known problem or a template that cannot be
read comes up before the write, and the write itself fails in neither of these ways. -/
theorem tree_of_clean [Engine] {directory : String} {inputs : List Value} {output : Value}
    {tree last : FileTree} {failure : Failure} (hclean : Clean directory tree output failure)
    (h : effect (renderOutput directory inputs output) tree = (.error failure, last)) :
    last = tree := by
  rw [effect_renderOutput] at h
  cases hrendered : rendered directory inputs tree output with
  | error other =>
    rw [hrendered] at h
    cases h
    rfl
  | ok found =>
    rw [hrendered] at h
    rcases hclean with ⟨problem, hknown⟩ | hunreadable
    · -- the failure is that of writing, under one more context
      rcases hwrite : outcome (writeText (Path.join directory found.1) found.2) ⟨tree, []⟩ with
        ⟨other | ⟨⟩, world⟩
      · simp only [resume, effect, hwrite] at h
        cases h
        exact absurd hknown (unforeseen_writeText _ _ _ _ _ hwrite problem)
      · simp only [resume, effect, hwrite] at h
        cases h
    · exact absurd hrendered (not_rendered_of_unreadable hunreadable inputs found)

/-- An entry that has a list of outputs, with other outputs instead. -/
theorem effect_generate_withOutputs [Engine] {project : Project} {entry : Value}
    {outputs : List Value}
    (h : entry.get? "outputs" = some (.array outputs)) (others : List Value) (tree : FileTree) :
    effect (generate project (withOutputs entry others)) tree =
      resume ((prepared project.token entry).mapError .ofProblem) tree fun found =>
        inTurn (others.map (renderOutput project.directory found.1)) tree := by
  rw [effect_generate, prepared_withOutputs h]
  cases prepared project.token entry <;> rfl

/-- With the outputs in front of one an entry succeeds and leaves the tree `mid`; with that one it
fails and leaves the tree `last`. -/
structure FailsAt [Engine] (project : Project) (entry : Value) (tree : FileTree)
    (before : List Value)
    (output : Value) (mid : FileTree) (failure : Failure) (last : FileTree) : Prop where
  outputs : ∃ after, entry.get? "outputs" = some (.array (before ++ output :: after))
  succeeds : effect (generate project (withOutputs entry before)) tree = (.ok (), mid)
  fails : effect (generate project (withOutputs entry (before ++ [output]))) tree =
    (.error failure, last)

/-- An entry that is prepared fails at the output that fails in the tree that those in front of it
leave. -/
theorem failsAt_iff [Engine] {project : Project} {entry : Value} {tree mid last : FileTree}
    {before : List Value} {output : Value} {failure : Failure} :
    FailsAt project entry tree before output mid failure last ↔
      ∃ data after, prepared project.token entry = .ok (data, before ++ output :: after) ∧
        inTurn (before.map (renderOutput project.directory data)) tree = (.ok (), mid) ∧
        effect (renderOutput project.directory data output) mid = (.error failure, last) := by
  constructor
  · rintro ⟨⟨after, houtputs⟩, hsucceeds, hfails⟩
    rw [effect_generate_withOutputs houtputs] at hsucceeds hfails
    -- the outputs in front succeed, so the entry was prepared
    cases hprepared : prepared project.token entry with
    | error problem =>
      rw [hprepared] at hsucceeds
      cases hsucceeds
    | ok found =>
      obtain ⟨data, outputs⟩ := found
      obtain rfl : outputs = before ++ output :: after := by
        simpa using (prepared_eq_ok hprepared).2.symm.trans houtputs
      rw [hprepared] at hsucceeds hfails
      exact ⟨data, after, rfl, hsucceeds, (inTurn_concat hsucceeds output).symm.trans hfails⟩
  · rintro ⟨data, after, hprepared, hbefore, houtput⟩
    obtain ⟨-, houtputs⟩ := prepared_eq_ok hprepared
    refine ⟨⟨after, houtputs⟩, ?_, ?_⟩
    · rw [effect_generate_withOutputs houtputs, hprepared]
      exact hbefore
    · rw [effect_generate_withOutputs houtputs, hprepared]
      exact (inTurn_concat hbefore output).trans houtput

/-- Entries fail cleanly. Unless both lists of an entry are there and all its inputs can be
resolved, nothing is written. If an output fails with a known problem, or because its template
cannot be read, the tree is the one that the outputs in front of it leave, and no later output is
begun. There are no other failures than those of inputs and outputs. -/
theorem generate_fails_cleanly [Engine] (project : Project) (entry : Value) (tree : FileTree) :
    (¬ Ready project.token entry → ∃ problem, Refused project.token entry problem ∧
      effect (generate project entry) tree = (.error (.ofProblem problem), tree)) ∧
    (∀ before output mid failure last,
      FailsAt project entry tree before output mid failure last →
        effect (generate project entry) tree = (.error failure, last) ∧
        (Clean project.directory mid output failure → last = mid)) ∧
    (∀ failure last, effect (generate project entry) tree = (.error failure, last) →
      (∃ problem, Refused project.token entry problem ∧ failure = .ofProblem problem ∧
        last = tree) ∨
      ∃ before output mid, FailsAt project entry tree before output mid failure last) := by
  refine ⟨?refused, ?fails, ?complete⟩
  case refused =>
    intro hready
    cases hprepared : prepared project.token entry with
    | ok found => exact absurd (prepared_eq_ok hprepared).1 hready
    | error problem =>
      refine ⟨problem, prepared_eq_error_iff.1 hprepared, ?_⟩
      rw [effect_generate, hprepared]
      rfl
  case fails =>
    intro before output mid failure last h
    obtain ⟨data, after, hprepared, hbefore, houtput⟩ := failsAt_iff.1 h
    refine ⟨?_, fun hclean => tree_of_clean hclean houtput⟩
    rw [effect_generate, hprepared]
    exact inTurn_eq_error_iff.2 ⟨before, output, after, mid, rfl, hbefore, houtput⟩
  case complete =>
    intro failure last h
    -- a prepared entry is its outputs in turn, and the first failure among them is its own
    rw [effect_generate] at h
    cases hprepared : prepared project.token entry with
    | error problem =>
      rw [hprepared] at h
      cases h
      exact .inl ⟨problem, prepared_eq_error_iff.1 hprepared, rfl, rfl⟩
    | ok found =>
      rw [hprepared] at h
      obtain ⟨before, output, after, mid, houtputs, hbefore, houtput⟩ := inTurn_eq_error_iff.1 h
      refine .inr ⟨before, output, mid, failsAt_iff.2 ⟨found.1, after, ?_, hbefore, houtput⟩⟩
      rw [hprepared, ← houtputs]

/-- An output of two keys. -/
def outputOf (template destination : String) : Value :=
  .object [("output", .string destination), ("template", .string template)]

/-- The first output is the template of the second one, and that names an unknown variable. -/
def chainedEntry : Value :=
  .object [("inputs", .array []), ("outputs", .array [outputOf "a" "b", outputOf "b" "c"])]

/-- A tree with a template whose text renders to a template. -/
def chainedTree : FileTree :=
  ⟨[(["a"], .file "\x7b\x7b '\x7b\x7b x \x7d\x7d' \x7d\x7d".toUTF8)], []⟩

open scoped Template.Engine in
/-- The second of two outputs fails over the template that the first one wrote, and the entry leaves
the tree with that template. Without its lists an entry leaves the tree as it was. -/
theorem generate_fails_cleanly_chained :
    let project : Project := ⟨.ofMembers [], ""⟩
    (¬ Ready project.token (.object []) ∧ ∃ problem,
      effect (generate project (.object [])) chainedTree =
        (.error (.ofProblem problem), chainedTree)) ∧
    ∃ mid failure last,
      FailsAt project chainedEntry chainedTree [outputOf "a" "b"] (outputOf "b" "c") mid failure
        last ∧
      Clean project.directory mid (outputOf "b" "c") failure ∧
      effect (generate project chainedEntry) chainedTree = (.error failure, mid) := by
  intro project
  refine ⟨?lists, ?outputs⟩
  case lists =>
    obtain ⟨hrefused, -, -⟩ := generate_fails_cleanly project (.object []) chainedTree
    have hready : ¬ Ready project.token (.object []) := by
      rintro ⟨inputs, outputs, hinputs, -⟩
      cases hinputs
    obtain ⟨problem, -, heffect⟩ := hrefused hready
    exact ⟨hready, problem, heffect⟩
  case outputs =>
    obtain ⟨-, hfails, -⟩ := generate_fails_cleanly project chainedEntry chainedTree
    have hok : (effect (generate project (withOutputs chainedEntry [outputOf "a" "b"]))
        chainedTree).1.isOk = true := by
      decide +kernel
    have hblamed : blamed? (effect (generate project (withOutputs chainedEntry
        [outputOf "a" "b", outputOf "b" "c"])) chainedTree).1 = some "b" := by
      decide +kernel
    rcases hsucceeds : effect (generate project (withOutputs chainedEntry [outputOf "a" "b"]))
      chainedTree with ⟨other | ⟨⟩, mid⟩
    · rw [hsucceeds] at hok
      cases hok
    rcases hlast : effect (generate project (withOutputs chainedEntry
      [outputOf "a" "b", outputOf "b" "c"])) chainedTree with ⟨failure | ⟨⟩, last⟩
    · have hfailsAt : FailsAt project chainedEntry chainedTree [outputOf "a" "b"]
          (outputOf "b" "c") mid failure last :=
        ⟨⟨[], rfl⟩, hsucceeds, hlast⟩
      rw [hlast] at hblamed
      have hclean : Clean project.directory mid (outputOf "b" "c") failure :=
        clean_of_template? hblamed _ _ _
      obtain ⟨heffect, htree⟩ := hfails _ _ _ _ _ hfailsAt
      rw [htree hclean] at heffect
      exact ⟨mid, failure, last, hfailsAt, hclean, heffect⟩
    · rw [hlast] at hblamed
      cases hblamed

end TemplatedFile

end DesignTokens

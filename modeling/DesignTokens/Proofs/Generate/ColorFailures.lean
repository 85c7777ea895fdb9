import DesignTokens.Proofs.Catalog.Combine
import DesignTokens.Proofs.Generate.ColorChannels
import DesignTokens.Proofs.Generate.TemplatedFiles

/-!
# Where an entry for colours fails

An entry reads both blocks and combines their leaves before it writes anything (`prepared`), so the
problems of its input leave the tree as it was (`effect_generate_error`). A text without channels
comes to light where the manifest of its colour is due: the manifest of the catalog and those of the
colours in front of it are written by then, and nothing else (`Malformed`).

Writing a manifest fails with no problem that the program knows, so a known problem tells where the
entry stopped (`stops_at_problem`).
-/

set_option autoImplicit false

namespace DesignTokens

open DesignTokens.Action DesignTokens.FileTree

/-- A problem of what an entry for colours reads: its keys, the groups that they name, or the leaves
in these groups. -/
inductive Problem.OfInput : Problem → Prop
  | missingRequiredKey (key guidance : String) : OfInput (.missingRequiredKey key guidance)
  | subtokenNotFound (keys : List String) : OfInput (.subtokenNotFound keys)
  | missingColorValue (name : String) : OfInput (.missingColorValue name)

namespace ColorSet

/-! ### What is read -/

/-- What an entry asks for, and the colours that its leaves make. -/
def prepared (token : DesignToken) (entry : Value) : Except Problem (Spec × List Color) := do
  let spec ← Spec.read token entry
  let colors ← Color.combine spec.any spec.dark
  return (spec, colors)

/-- A section is prepared if its input can be read and combined. -/
theorem prepared_eq_ok_iff {token : DesignToken} {entry : Value} {spec : Spec}
    {colors : List Color} :
    prepared token entry = .ok (spec, colors) ↔
      Spec.read token entry = .ok spec ∧ Color.combine spec.any spec.dark = .ok colors := by
  simp only [prepared, Result.bind_eq_ok_iff, pure, Except.pure, Except.ok.injEq, Prod.mk.injEq]
  constructor
  · rintro ⟨spec, hspec, colors, hcolors, rfl, rfl⟩
    exact ⟨hspec, hcolors⟩
  · rintro ⟨hspec, hcolors⟩
    exact ⟨spec, hspec, colors, hcolors, rfl, rfl⟩

/-- It is refused by the reading of the input or, after that, by the combination. -/
theorem prepared_eq_error_iff {token : DesignToken} {entry : Value} {problem : Problem} :
    prepared token entry = .error problem ↔
      Spec.read token entry = .error problem ∨ ∃ spec, Spec.read token entry = .ok spec ∧
        Color.combine spec.any spec.dark = .error problem := by
  simp [prepared, Result.bind_eq_error_iff, pure, Except.pure]

/-- What a block of the entry is refused for is a problem of the input. -/
theorem ofInput_of_resolve {token : DesignToken} {block : Value} {usePrefix : Bool}
    {problem : Problem} (h : resolve token block usePrefix = .error problem) :
    problem.OfInput := by
  rw [resolve, Result.bind_eq_error_iff] at h
  rcases h with hkeys | ⟨keys, -, hvalues⟩
  · obtain ⟨-, rfl⟩ := Key.required_eq_error_iff.1 hkeys
    exact .missingRequiredKey _ _
  · obtain ⟨-, rfl⟩ := DesignToken.values_eq_error_iff.1 hvalues
    exact .subtokenNotFound _

/-- So is what the whole entry is refused for. -/
theorem ofInput_of_read {token : DesignToken} {entry : Value} {problem : Problem}
    (h : Spec.read token entry = .error problem) : problem.OfInput := by
  simp only [Spec.read, Result.bind_eq_error_iff] at h
  rcases h with houtput | ⟨output, -, hinput | ⟨input, -, hany | ⟨any, -, hdark⟩⟩⟩
  · obtain ⟨-, rfl⟩ := Key.required_eq_error_iff.1 houtput
    exact .missingRequiredKey _ _
  · obtain ⟨-, rfl⟩ := Key.required_eq_error_iff.1 hinput
    exact .missingRequiredKey _ _
  · exact ofInput_of_resolve hany
  · split at hdark
    · rcases Result.bind_eq_error_iff.1 hdark with hblock | ⟨dark, -, hpure⟩
      · exact ofInput_of_resolve hblock
      · cases hpure
    · cases hdark

/-- So is everything that stands against preparing a section. -/
theorem ofInput_of_prepared {token : DesignToken} {entry : Value} {problem : Problem}
    (h : prepared token entry = .error problem) : problem.OfInput := by
  rcases prepared_eq_error_iff.1 h with hread | ⟨spec, -, hcombine⟩
  · exact ofInput_of_read hread
  · obtain ⟨name, rfl, -⟩ := Color.combine_eq_error_iff.1 hcombine
    exact .missingColorValue name

/-- An entry that cannot be prepared fails before it writes. Reading and combining are done with the
document alone, so the tree is as it was. -/
theorem effect_generate_error [Template.Engine] {project : Project} {entry : Value}
    {problem : Problem}
    (h : prepared project.token entry = .error problem) (tree : FileTree) :
    effect (generate project entry) tree = (.error (.ofProblem problem), tree) := by
  rcases prepared_eq_error_iff.1 h with hread | ⟨spec, hread, hcombine⟩
  · rw [generate, hread]
    rfl
  · rw [generate, hread, effect_value_bind, hcombine]
    rfl

/-! ### What is written -/

/-- Writing fails with no known problem. -/
theorem unforeseen_of_effect {path content : String} {tree last : FileTree} {failure : Failure}
    (h : effect (writeText path content) tree = (.error failure, last)) : Unforeseen failure := by
  rcases hwrite : outcome (writeText path content) ⟨tree, []⟩ with ⟨other | ⟨⟩, world⟩
  · rw [effect, hwrite] at h
    cases h
    exact unforeseen_writeText path content _ _ _ hwrite
  · rw [effect, hwrite] at h
    cases h

/-- The text that a colour fails at is its first one that cannot be split, the light one before the
dark one. -/
theorem unsplit?_eq (color : Color) :
    color.unsplit? = color.texts.find? fun text => (Rgba.components? text).isNone := by
  have hnone : (fun text => !decide (Rgba.Splits text)) =
      fun text => (Rgba.components? text).isNone := by
    funext text
    rw [← Option.not_isSome, Bool.eq_iff_iff, Bool.not_eq_true', Bool.not_eq_true',
      decide_eq_false_iff_not, Bool.eq_false_iff, ne_eq, Rgba.isSome_components?_iff]
  rw [Color.unsplit?, hnone]

/-- The channels of a colour are those of its texts. -/
theorem Shows.unique {options : Option Value} {color : Color} {shown shown' : Shown}
    (h : Shows options color shown) (h' : Shows options color shown') : shown = shown' := by
  obtain ⟨hfinished, hex, dark, htexts, hlight, hdark⟩ := h
  obtain ⟨hfinished', hex', dark', htexts', hlight', hdark'⟩ := h'
  obtain ⟨rfl, hlist⟩ := List.cons.inj (htexts.symm.trans htexts')
  obtain rfl : dark = dark' := by
    cases dark <;> cases dark' <;> simp_all
  have hshade : shown.dark = shown'.dark :=
    Option.map_injective (Option.some_injective _) (hdark.symm.trans hdark')
  cases shown
  cases shown'
  rw [Shown.mk.injEq]
  exact ⟨hfinished.trans hfinished'.symm, Option.some.inj (hlight.symm.trans hlight'), hshade⟩

/-- All texts of a colour with channels split. -/
theorem Shows.unsplit? {options : Option Value} {color : Color} {shown : Shown}
    (h : Shows options color shown) : color.unsplit? = none := by
  obtain ⟨hex, dark, htexts, hlight, hdark⟩ := h.channels
  rw [unsplit?_eq, htexts, List.find?_eq_none, List.forall_mem_cons]
  refine ⟨by simp [hlight], ?_⟩
  intro text htext
  obtain rfl := Option.mem_toList.1 htext
  cases hshade : shown.dark with
  | none => simp [hshade] at hdark
  | some rgba =>
    rw [hshade] at hdark
    simp [Option.some.inj hdark]

section
variable [Template.Engine] (catalog : String) (params : Value) (options : Option Value)

/-- A colour fails with its first text that has no channels, or because its manifest cannot be
written. -/
theorem failure_of_writeColor {color : Color} (hraw : color.Raw) {tree last : FileTree}
    {failure : Failure}
    (h : effect (writeColor catalog params (color.finish options)) tree =
      (.error failure, last)) :
    (∃ text, color.unsplit? = some text ∧ last = tree ∧ failure =
      .ofProblem (.malformedColorValue (Color.finalName options color.name) text)) ∨
      Unforeseen failure := by
  cases hunsplit : color.unsplit? with
  | none =>
    obtain ⟨shown, -, hsame⟩ := effect_writeColor catalog params options hraw hunsplit
    rw [hsame] at h
    exact .inr (unforeseen_of_effect h)
  | some text =>
    rw [effect_writeColor_malformed catalog params options hraw hunsplit] at h
    cases h
    exact .inl ⟨text, rfl, rfl, rfl⟩

/-- Colours with channels come down to their manifests. -/
theorem inTurn_of_shows {colors : List Color} {items : List Shown}
    (hraw : ∀ color ∈ colors, color.Raw) (h : List.Forall₂ (Shows options) colors items)
    (tree : FileTree) :
    inTurn (colors.map fun color => writeColor catalog params (color.finish options)) tree =
      inTurn (items.map (writeShown catalog params)) tree := by
  induction h generalizing tree with
  | nil => rfl
  | @cons color shown colors items hfirst _ ih =>
    obtain ⟨hcolor, hrest⟩ := List.forall_mem_cons.1 hraw
    obtain ⟨found, hfound, hsame⟩ :=
      effect_writeColor catalog params options hcolor hfirst.unsplit?
    obtain rfl := hfound.unique hfirst
    rw [List.map_cons, List.map_cons, inTurn, inTurn, hsame]
    exact andThen_congr (ih hrest) _

end

/-- The first colour with a text that has no channels, where an entry has come so far: its final
name, its first such text, and the tree in which the manifest of the catalog and those of the
colours in front of it are written. -/
inductive Malformed (project : Project) (entry : Value) (tree : FileTree) :
    (name hex : String) → (last : FileTree) → Prop
  | intro {spec : Spec} {before after : List Color} {color : Color} {items : List Shown}
    {hex : String} {last : FileTree}
    (prepared : prepared project.token entry = .ok (spec, before ++ color :: after))
    (ordered : (before ++ color :: after).Pairwise fun a b =>
      Text.bytes a.name ≤ Text.bytes b.name)
    (shown : List.Forall₂ (Shows (Stage.options? (some entry))) before items)
    (text : (color.texts.find? fun text => (Rgba.components? text).isNone) = some hex)
    (written : inTurn
      (writeText (Manifest.pathIn (Path.join project.directory spec.output)) Manifest.rootText ::
        items.map (writeShown (Path.join project.directory spec.output) (Manifest.paramsOf entry)))
      tree = (.ok (), last)) :
    Malformed project entry tree (Color.finalName (Stage.options? (some entry)) color.name) hex
      last

/-- Behind its input, an entry fails at the first text without channels, or because a manifest
cannot be written. -/
theorem malformed_of_effect [Template.Engine] {project : Project} {entry : Value} {spec : Spec}
    {colors : List Color} (hprepared : prepared project.token entry = .ok (spec, colors))
    {tree last : FileTree} {failure : Failure}
    (h : effect (generate project entry) tree = (.error failure, last)) :
    (∃ name hex, failure = .ofProblem (.malformedColorValue name hex) ∧
      Malformed project entry tree name hex last) ∨ Unforeseen failure := by
  obtain ⟨hspec, hcolors⟩ := prepared_eq_ok_iff.1 hprepared
  have hraw := Color.raw_of_combine hcolors
  obtain ⟨-, -, -, -, hordered, -⟩ := Color.combined_of_combine hcolors
  rw [effect_generate hspec hcolors, inTurn] at h
  -- the manifest of the catalog comes first, and it fails over the files only
  rcases hroot : effect (writeText (Manifest.pathIn (Path.join project.directory spec.output))
    Manifest.rootText) tree with ⟨other | ⟨⟩, rooted⟩
  · rw [hroot] at h
    cases h
    exact .inr (unforeseen_of_effect hroot)
  · rw [hroot] at h
    obtain ⟨before, color, after, mid, rfl, hbefore, hcolor⟩ := inTurn_eq_error_iff.1 h
    rcases failure_of_writeColor _ _ _ (hraw color (by simp)) hcolor with
      ⟨text, htext, rfl, rfl⟩ | hunforeseen
    · obtain ⟨items, hitems, hturn⟩ :=
        exists_shown _ _ _ (fun other hmem => hraw other (by simp [hmem])) hbefore
      refine .inl ⟨_, text, rfl, .intro hprepared hordered hitems ?_ ?_⟩
      · rw [← unsplit?_eq, htext]
      · rw [inTurn, hroot]
        exact hturn
    · exact .inr hunforeseen

/-- A malformed colour ends the run with its name and text, and leaves the manifests before it. -/
theorem effect_of_malformed [Template.Engine] {project : Project} {entry : Value}
    {tree last : FileTree}
    {name hex : String} (h : Malformed project entry tree name hex last) :
    effect (generate project entry) tree =
      (.error (.ofProblem (.malformedColorValue name hex)), last) := by
  cases h with
  | @intro spec before after color items _ _ hprepared _ hshown htext hwritten =>
    obtain ⟨hspec, hcolors⟩ := prepared_eq_ok_iff.1 hprepared
    have hraw := Color.raw_of_combine hcolors
    rw [← unsplit?_eq] at htext
    have hfails := effect_writeColor_malformed (Path.join project.directory spec.output)
      (Manifest.paramsOf entry) (Stage.options? (some entry)) (hraw color (by simp)) htext
    have hfront := inTurn_of_shows (Path.join project.directory spec.output)
      (Manifest.paramsOf entry) (Stage.options? (some entry))
      (fun other hmem => hraw other (by simp [hmem])) hshown
    rw [inTurn] at hwritten
    rw [effect_generate hspec hcolors, List.map_append, List.map_cons, ← List.cons_append,
      inTurn_append_error hfails, inTurn, funext hfront, hwritten]
    rfl

/-- An entry fails at its input before anything is written, at the first text without channels, or
with no known problem. -/
theorem failure_cases [Template.Engine] {project : Project} {entry : Value} {tree last : FileTree}
    {failure : Failure} (h : effect (generate project entry) tree = (.error failure, last)) :
    (∃ problem, failure = .ofProblem problem ∧ problem.OfInput ∧ last = tree) ∨
      (∃ name hex, failure = .ofProblem (.malformedColorValue name hex) ∧
        Malformed project entry tree name hex last) ∨ Unforeseen failure := by
  cases hprepared : prepared project.token entry with
  | error problem =>
    rw [effect_generate_error hprepared] at h
    cases h
    exact .inl ⟨problem, rfl, ofInput_of_prepared hprepared, rfl⟩
  | ok found => exact .inr (malformed_of_effect hprepared h)

/-- Where an entry for colours fails. A problem of its input leaves the tree as it was. The failure
of a text without channels names the first colour with one and tells its first such text; exactly
then the manifest of the catalog and those of the colours in front of it are written. No other known
problem ends an entry. -/
theorem stops_at_problem [Template.Engine] (project : Project) (entry : Value) (world : World) :
    (∀ failure problem last,
      settled (outcome (generate project entry) world) = (.error failure, last) →
        failure.cause = .known problem → problem.OfInput → last = world.tree) ∧
    (∀ name hex last,
      settled (outcome (generate project entry) world) =
          (.error (.ofProblem (.malformedColorValue name hex)), last) ↔
        Malformed project entry world.tree name hex last) ∧
    ∀ failure problem last,
      settled (outcome (generate project entry) world) = (.error failure, last) →
        failure.cause = .known problem → failure = .ofProblem problem ∧
          (problem.OfInput ∨ ∃ name hex, problem = .malformedColorValue name hex) := by
  -- the log makes no difference to what the entry comes to
  have hlog : IgnoresLog world (generate project entry) :=
    inherited_ignoresLog.generateColors (serves_ignoresLog world.tree _)
  have hsettled : settled (outcome (generate project entry) world) =
      effect (generate project entry) world.tree := (hlog []).symm
  rw [hsettled]
  refine ⟨?unchanged, ?malformed, ?known⟩
  case unchanged =>
    intro failure problem last h hknown hinput
    rcases failure_cases h with ⟨_, -, -, hlast⟩ | ⟨name, hex, rfl, -⟩ | hunforeseen
    · exact hlast
    · cases hknown
      cases hinput
    · exact absurd hknown (hunforeseen problem)
  case malformed =>
    intro name hex last
    refine ⟨fun h => ?_, effect_of_malformed⟩
    rcases failure_cases h with
      ⟨problem, heq, hinput, -⟩ | ⟨name', hex', heq, hmalformed⟩ | hunforeseen
    · cases heq
      cases hinput
    · cases heq
      exact hmalformed
    · exact absurd rfl (hunforeseen _)
  case known =>
    intro failure problem last h hknown
    rcases failure_cases h with ⟨_, rfl, hinput, -⟩ | ⟨name, hex, rfl, -⟩ | hunforeseen
    · cases hknown
      exact ⟨rfl, .inl hinput⟩
    · cases hknown
      exact ⟨rfl, .inr ⟨name, hex, rfl⟩⟩
    · exact absurd hknown (hunforeseen problem)

open scoped Template.Engine in
/-- Without any key an entry leaves the tree. The second colour of a document ends the entry behind
the manifest of the first one. -/
theorem stops_at_problem_short :
    (∃ problem last, settled (outcome (generate short (.object [])) ⟨⟨[], []⟩, []⟩) =
        (.error (.ofProblem problem), last) ∧ problem.OfInput ∧ last = ⟨[], []⟩) ∧
      ∃ last, settled (outcome (generate short ungroupedEntry) ⟨⟨[], []⟩, []⟩) =
          (.error (.ofProblem (.malformedColorValue "y" "#12345")), last) ∧
        Malformed short ungroupedEntry ⟨[], []⟩ "y" "#12345" last := by
  constructor
  · obtain ⟨hunchanged, -, -⟩ := stops_at_problem short (.object []) ⟨⟨[], []⟩, []⟩
    have hfails : settled (outcome (generate short (.object [])) ⟨⟨[], []⟩, []⟩) =
        (.error (.ofProblem (.missingRequiredKey Manifest.outputKey.name
          Manifest.outputKey.guidance)), ⟨[], []⟩) := rfl
    exact ⟨_, _, hfails, .missingRequiredKey _ _,
      hunchanged _ _ _ hfails rfl (.missingRequiredKey _ _)⟩
  · obtain ⟨-, hmalformed, -⟩ := stops_at_problem short ungroupedEntry ⟨⟨[], []⟩, []⟩
    have hprepared : prepared short.token ungroupedEntry = .ok (_,
        [.ofHexes "x" "#GGGGGG" none] ++ .ofHexes "y" "#12345" none :: []) :=
      prepared_eq_ok_iff.2 read_short
    have hshown : List.Forall₂ (Shows (Stage.options? (some ungroupedEntry)))
        [.ofHexes "x" "#GGGGGG" none] [lettersColor] :=
      .cons ⟨rfl, "#GGGGGG", none, Color.texts_ofHexes _ _ _, components?_letters, rfl⟩ .nil
    have htext : ((Color.ofHexes "y" "#12345" none).texts.find?
        fun text => (Rgba.components? text).isNone) = some "#12345" := by
      rw [Color.texts_ofHexes]
      decide +kernel
    have hwrites : (inTurn
        (writeText (Manifest.pathIn (Path.join short.directory "out")) Manifest.rootText ::
          [lettersColor].map (writeShown (Path.join short.directory "out")
            (Manifest.paramsOf ungroupedEntry))) ⟨[], []⟩).1.isOk = true := by
      decide +kernel
    rcases hwritten : inTurn
        (writeText (Manifest.pathIn (Path.join short.directory "out")) Manifest.rootText ::
          [lettersColor].map (writeShown (Path.join short.directory "out")
            (Manifest.paramsOf ungroupedEntry))) ⟨[], []⟩ with ⟨failure | ⟨⟩, last⟩
    · rw [hwritten] at hwrites
      cases hwrites
    · have hstops : Malformed short ungroupedEntry ⟨[], []⟩ "y" "#12345" last :=
        .intro hprepared (by decide +kernel) hshown htext hwritten
      exact ⟨last, (hmalformed "y" "#12345" last).2 hstops, hstops⟩

end ColorSet

end DesignTokens

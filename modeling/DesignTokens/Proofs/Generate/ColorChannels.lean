import DesignTokens.Proofs.Generate.Colors
import DesignTokens.Proofs.Generate.InTurn
import DesignTokens.Proofs.Stage.Rgba

/-!
# Colours by their channels

An entry for colours comes down to the manifest of its catalog and its colours in turn
(`effect_generate`). A colour whose texts split has its manifest written with their channels
(`effect_writeColor`), and any other colour ends the entry with its first text that does not split
(`effect_writeColor_malformed`). Whether the characters of a text are digits makes no difference, so
the channels of a generated catalog are bytes exactly if all texts hold six digits
(`channels_of_generate`).
-/

set_option autoImplicit false

namespace DesignTokens

open DesignTokens.Action DesignTokens.FileTree DesignTokens.Template

/-! ### The texts of a colour -/

namespace Color

/-- The text that an appearance has under `hex`. -/
def textOf (appearance : Members) : Option String :=
  (appearance.lookup "hex").bind Value.string?

/-- The texts of the appearances of a colour, the light one first. -/
def texts (color : Color) : List String :=
  (textOf color.any).toList ++ (color.dark.bind textOf).toList

/-- The texts of a colour are its hex code and, where it has one, that of its dark form. -/
@[simp]
theorem texts_ofHexes (name hex : String) (dark : Option String) :
    (ofHexes name hex dark).texts = hex :: dark.toList := by
  have htext (hex : String) : textOf (appearance hex) = some hex := rfl
  cases dark <;> simp [texts, ofHexes, htext]

/-- The check of an appearance is that of its text, which it names. Whether the text splits can be
decided without making the channels. -/
theorem checkAppearance_enrich (color : Color) (hex : String) :
    color.checkAppearance (Rgba.enrich (appearance hex)) =
      if Rgba.Splits hex then .ok () else .error (.malformedColorValue color.name hex) := by
  rw [checkAppearance, lookup_enrich, Option.isSome_map]
  by_cases hsplits : Rgba.Splits hex
  · rw [if_pos (Rgba.isSome_components?_iff.2 hsplits), if_pos hsplits]
  · have hnone : ¬ (Rgba.components? hex).isSome = true := by
      rwa [Rgba.isSome_components?_iff]
    have hhex : (appearance hex).lookup "hex" = some (.string hex) := rfl
    -- an appearance without channels is left as it was
    have hsame : Rgba.enrich (appearance hex) = appearance hex := by
      rw [Rgba.enrich, hhex]
      simp only [Option.bind_some, Value.string?, Option.not_isSome_iff_eq_none.1 hnone]
    rw [if_neg hnone, if_neg hsplits, hsame, hhex]
    rfl

/-- The first text of a colour that does not split. -/
def unsplit? (color : Color) : Option String :=
  color.texts.find? fun text => !decide (Rgba.Splits text)

/-- A finished colour passes the check if all its texts split. Otherwise the first text that does
not is told with the final name. -/
theorem checkDecoded_finish (options : Option Value) {color : Color} (hraw : color.Raw) :
    (finish options color).checkDecoded =
      match color.unsplit? with
      | none => .ok ()
      | some text => .error (.malformedColorValue (finalName options color.name) text) := by
  obtain ⟨hex, dark, hcolor⟩ := hraw
  have hname : (finish options color).name = finalName options color.name := rfl
  have hany : (finish options color).any = Rgba.enrich (appearance hex) := by rw [hcolor]; rfl
  have hdark : (finish options color).dark = (dark.map appearance).map Rgba.enrich := by
    rw [hcolor]; rfl
  have htexts : color.texts = hex :: dark.toList := by rw [hcolor, texts_ofHexes]
  rw [checkDecoded, hany, hdark, checkAppearance_enrich, hname, unsplit?, htexts]
  by_cases hlight : Rgba.Splits hex
  · cases dark with
    | none => simp [hlight, bind, Except.bind, pure, Except.pure]
    | some other =>
      have hother := checkAppearance_enrich (finish options color) other
      rw [hname] at hother
      by_cases hshade : Rgba.Splits other <;>
        simp [hlight, hshade, hother, bind, Except.bind]
  · simp [hlight, bind, Except.bind]

end Color

namespace ColorSet

/-! ### Colours in turn -/

/-- The colour with the channels of its texts. -/
structure Shows (options : Option Value) (color : Color) (shown : Shown) : Prop where
  finished : shown.color = color.finish options
  channels : ∃ hex dark, color.texts = hex :: dark.toList ∧
    Color.Channels hex dark shown.light shown.dark

/-- The channels that a manifest shows. -/
def Shown.appearances (shown : Shown) : List Rgba :=
  shown.light :: shown.dark.toList

/-- What was reported before has no influence on how a colour is written. -/
theorem ignoresLog_writeColor [Engine] (catalog : String) (params : Value) (color : Color)
    (world : World) :
    IgnoresLog world (writeColor catalog params color) :=
  (ignoresLog_ofExcept _ world).bind fun _ start _ => ignoresLog_renderTo _ _ _ start

/-- Nor on a list of them. -/
theorem ignoresLog_writeColors [Engine] (catalog : String) (params : Value) (colors : List Color)
    (world : World) : IgnoresLog world (colors.forM (writeColor catalog params)) :=
  IgnoresLog.forM (ignoresLog_writeColor catalog params)

/-- Nor on the whole catalog. -/
theorem ignoresLog_writeCatalog [Engine] (catalog : String) (params : Value)
    (colors : List Color) (world : World) :
    IgnoresLog world (writeCatalog catalog params colors) := by
  have hroot : IgnoresLog world (Manifest.writeRoot catalog) := ignoresLog_renderTo _ _ _ world
  exact hroot.bind fun _ world' _ => ignoresLog_writeColors catalog params colors world'

/-- A catalog comes down to its manifest and its colours in turn. -/
theorem effect_writeCatalog [Engine] (catalog : String) (params : Value) (colors : List Color)
    (tree : FileTree) :
    effect (writeCatalog catalog params colors) tree =
      inTurn (writeText (Manifest.pathIn catalog) Manifest.rootText ::
        colors.map (writeColor catalog params)) tree := by
  have htext : renderText BundledTemplate.info.content [] = .ok Manifest.rootText :=
    Manifest.renderText_info
  rw [writeCatalog, effect_andThen (ignoresLog_writeColors catalog params colors),
    Manifest.writeRoot, effect_renderTo htext, inTurn]
  apply andThen_congr
  intro rooted
  exact effect_forM (ignoresLog_writeColor catalog params) colors rooted

section
variable [Engine] (catalog : String) (params : Value) (options : Option Value)

/-- A colour whose texts split comes down to its manifest. What the check and the template do is
known then, and all that is left is a write of a known text (`writeShown`). -/
theorem effect_writeColor {color : Color} (hraw : color.Raw) (h : color.unsplit? = none) :
    ∃ shown, Shows options color shown ∧ ∀ tree,
      effect (writeColor catalog params (color.finish options)) tree =
        effect (writeShown catalog params shown) tree := by
  have hcheck : (color.finish options).checkDecoded = .ok () := by
    rw [Color.checkDecoded_finish options hraw, h]
  obtain ⟨hex, dark, hcolor⟩ := hraw
  rw [hcolor] at hcheck
  obtain ⟨light, shade, hchannels, hdecoded⟩ := Color.decoded_of_checkDecoded hcheck
  rw [← hcolor] at hcheck hdecoded
  have htexts : color.texts = hex :: dark.toList := by rw [hcolor, Color.texts_ofHexes]
  have hrender : renderText BundledTemplate.color.content (context params (color.finish options)) =
      .ok (manifest (colorSpace params) light shade) :=
    renderText_color params hdecoded
  refine ⟨⟨color.finish options, light, shade⟩, ⟨rfl, hex, dark, htexts, hchannels⟩, ?_⟩
  intro tree
  rw [writeColor, hcheck, effect_value_bind, effect_renderTo hrender, writeShown, manifestPath]

/-- Any other colour fails with its first text that does not split, under its final name, and before
its manifest is begun. -/
theorem effect_writeColor_malformed {color : Color} (hraw : color.Raw) {text : String}
    (h : color.unsplit? = some text) (tree : FileTree) :
    effect (writeColor catalog params (color.finish options)) tree =
      (.error (.ofProblem
        (.malformedColorValue (Color.finalName options color.name) text)), tree) := by
  rw [writeColor, Color.checkDecoded_finish options hraw, h]
  rfl

/-- A colour that does not fail has texts that split. -/
theorem unsplit?_of_ok {color : Color} (hraw : color.Raw) {tree tree' : FileTree}
    (h : effect (writeColor catalog params (color.finish options)) tree = (.ok (), tree')) :
    color.unsplit? = none := by
  cases hunsplit : color.unsplit? with
  | none => rfl
  | some text => simp [effect_writeColor_malformed catalog params options hraw hunsplit] at h

/-- Colours that do not fail come down to their manifests, one for each colour. What a colour shows
is determined by its texts, so the manifests can be told in advance. -/
theorem exists_shown {colors : List Color} (hraw : ∀ color ∈ colors, color.Raw)
    {tree tree' : FileTree}
    (h : inTurn (colors.map fun color => writeColor catalog params (color.finish options)) tree =
      (.ok (), tree')) :
    ∃ items, List.Forall₂ (Shows options) colors items ∧
      inTurn (items.map (writeShown catalog params)) tree = (.ok (), tree') := by
  induction colors generalizing tree with
  | nil => exact ⟨[], .nil, h⟩
  | cons color colors ih =>
    obtain ⟨hfirst, hrest⟩ := List.forall_mem_cons.1 hraw
    rw [List.map_cons, inTurn] at h
    rcases heffect : effect (writeColor catalog params (color.finish options)) tree with
      ⟨failure | ⟨⟩, between⟩
    · rw [heffect] at h
      cases h
    · rw [heffect] at h
      obtain ⟨shown, hshows, hsame⟩ := effect_writeColor catalog params options hfirst
        (unsplit?_of_ok catalog params options hfirst heffect)
      obtain ⟨items, hitems, hturn⟩ := ih hrest h
      refine ⟨shown :: items, .cons hshows hitems, ?_⟩
      rw [List.map_cons, inTurn, ← hsame, heffect]
      exact hturn

end

/-- An entry whose leaves make colours comes down to the manifest of its catalog and its colours in
turn. The warnings in between only go to the log, and the colours are finished one by one. -/
theorem effect_generate [Engine] {project : Project} {entry : Value} {spec : Spec}
    {colors : List Color}
    (hspec : Spec.read project.token entry = .ok spec)
    (hcolors : Color.combine spec.any spec.dark = .ok colors) (tree : FileTree) :
    effect (generate project entry) tree =
      inTurn (writeText (Manifest.pathIn (Path.join project.directory spec.output))
          Manifest.rootText ::
        colors.map fun color => writeColor (Path.join project.directory spec.output)
          (Manifest.paramsOf entry) (color.finish (Stage.options? (some entry)))) tree := by
  have hwarn : effect (warnMalformed colors) tree = (.ok (), tree) := by
    obtain ⟨log, houtcome⟩ := outcome_warnMalformed colors ⟨tree, []⟩
    rw [effect, houtcome]
    rfl
  have hcatalog := ignoresLog_writeCatalog (Path.join project.directory spec.output)
    (Manifest.paramsOf entry) (Stage.run Color.stages (some entry) colors)
  have hrest (message : String) (world : World) := (hcatalog world).bind fun _ world' _ =>
    (fun _ => rfl : IgnoresLog world' (Action.log .info message))
  have hwarned (world : World) : IgnoresLog world (warnMalformed colors) :=
    IgnoresLog.forM fun _ _ _ => rfl
  rw [generate, hspec, effect_value_bind, effect_log_bind, hcolors, effect_value_bind,
    effect_andThen (hrest _), hwarn, andThen, effect_bind_log, Color.run_stages,
    effect_writeCatalog,
    List.map_map, Function.comp_def]
  · intro world
    apply (ignoresLog_ofExcept _ world).bind
    intro found start hfound
    obtain rfl := Except.ok.inj (hcolors.symm.trans (outcome_ofExcept_ok_iff.1 hfound).1)
    exact (hwarned start).bind fun _ warned _ => hrest _ warned

/-- The channels of a colour are bytes exactly if its texts hold six digits, the light one
and, where there is one, the dark one. -/
theorem Shows.bytes_iff {options : Option Value} {color : Color} {shown : Shown}
    (h : Shows options color shown) :
    (∀ rgba ∈ shown.appearances, rgba.Bytes) ↔ ∀ text ∈ color.texts, Rgba.SixDigits text := by
  obtain ⟨hex, dark, htexts, hchannels⟩ := h.channels
  have hdark := hchannels.dark
  rw [htexts, Shown.appearances, List.forall_mem_cons, List.forall_mem_cons,
    Rgba.bytes_iff hchannels.light]
  refine and_congr_right fun _ => ?_
  cases dark with
  | none =>
    cases hshade : shown.dark with
    | none => simp
    | some rgba => simp [hshade] at hdark
  | some other =>
    cases hshade : shown.dark with
    | none => simp [hshade] at hdark
    | some rgba =>
      rw [hshade] at hdark
      have hother := Rgba.bytes_iff (Option.some.inj hdark)
      simpa using hother

/-- The channels are bytes in all that is shown exactly if all the texts they come from have six hex
digits. -/
theorem bytes_iff_of_shows {options : Option Value} {colors : List Color} {items : List Shown}
    (h : List.Forall₂ (Shows options) colors items) :
    (∀ shown ∈ items, ∀ rgba ∈ shown.appearances, rgba.Bytes) ↔
      ∀ color ∈ colors, ∀ text ∈ color.texts, Rgba.SixDigits text := by
  induction h with
  | nil => simp
  | cons hfirst _ ih => rw [List.forall_mem_cons, List.forall_mem_cons, hfirst.bytes_iff, ih]

/-- What the texts of colours decide. If the entry is generated, the manifest of each colour shows
the characters of its texts, and they are bytes everywhere exactly if all texts hold six
hexadecimal digits behind their `#`. The first colour with a text that has fewer than six
characters there, or one that is not ASCII, ends the entry with that text once all that comes
before it is written. -/
theorem channels_of_generate [Engine] {project : Project} {entry : Value} {spec : Spec}
    {colors : List Color} (hspec : Spec.read project.token entry = .ok spec)
    (hcolors : Color.combine spec.any spec.dark = .ok colors) (world : World) :
    let catalog := Path.join project.directory spec.output
    let params := Manifest.paramsOf entry
    let options := Stage.options? (some entry)
    let root := writeText (Manifest.pathIn catalog) Manifest.rootText
    (∀ world', outcome (generate project entry) world = (.ok (), world') →
      ∃ items, List.Forall₂ (Shows options) colors items ∧
        inTurn (root :: items.map (writeShown catalog params)) world.tree =
          (.ok (), world'.tree) ∧
        ((∀ shown ∈ items, ∀ rgba ∈ shown.appearances, rgba.Bytes) ↔
          ∀ color ∈ colors, ∀ text ∈ color.texts, Rgba.SixDigits text)) ∧
    ∀ before color after text, colors = before ++ color :: after →
      color.texts.find? (fun text => !decide (Rgba.Splits text)) = some text →
      settled (outcome (generate project entry) world) =
        andThen (inTurn (root :: before.map fun color =>
            writeColor catalog params (color.finish options)) world.tree) fun tree =>
          (.error (.ofProblem
            (.malformedColorValue (Color.finalName options color.name) text)), tree) := by
  intro catalog params options root
  have hraw := Color.raw_of_combine hcolors
  -- the generator ignores the log, so it comes down to its manifests in turn
  have hlog : IgnoresLog world (generate project entry) :=
    inherited_ignoresLog.generateColors (serves_ignoresLog world.tree _)
  have hsettled : settled (outcome (generate project entry) world) =
      inTurn (root :: colors.map fun color => writeColor catalog params (color.finish options))
        world.tree := by
    rw [← hlog []]
    exact effect_generate hspec hcolors world.tree
  refine ⟨?generated, ?malformed⟩
  case generated =>
    intro world' hgenerate
    rw [hgenerate, inTurn] at hsettled
    rcases hroot : effect root world.tree with ⟨failure | ⟨⟩, rooted⟩
    · rw [hroot] at hsettled
      cases hsettled
    · rw [hroot] at hsettled
      obtain ⟨items, hitems, hturn⟩ := exists_shown catalog params options hraw hsettled.symm
      refine ⟨items, hitems, ?_, bytes_iff_of_shows hitems⟩
      rw [inTurn, hroot]
      exact hturn
  case malformed =>
    rintro before color after text rfl hunsplit
    have hfails := effect_writeColor_malformed catalog params options
      (hraw color (by simp)) hunsplit
    rw [hsettled, List.map_append, List.map_cons, ← List.cons_append, inTurn_append_error hfails]

/-- An entry for the colours of a document under `c`. -/
def ungroupedEntry : Value :=
  .object [("input", .object [("keys", .array [.string "c"])]), ("output", .string "out")]

/-- A document with a colour of six letters, none of which is a digit. -/
def letters : Project :=
  ⟨.ofMembers [("c", .object [("x", colorLeaf "#GGGGGG")])], ""⟩

/-- The channels of that colour. -/
def lettersRgba : Rgba :=
  ⟨"0xGG", "0xGG", "0xGG", "1.000", "#GGGGGG"⟩

/-- That colour with its channels. -/
def lettersColor : Shown :=
  ⟨.finish none (.ofHexes "x" "#GGGGGG" none), lettersRgba, none⟩

/-- The token file of the fixture is read as a colour with letters that are no hex digits, and it is
combined without a complaint. -/
theorem read_letters :
    Spec.read letters.token ungroupedEntry =
        .ok ⟨"out", [⟨"x", ⟨"color", .string "#GGGGGG", none⟩⟩], []⟩ ∧
      Color.combine [⟨"x", ⟨"color", .string "#GGGGGG", none⟩⟩] [] =
        .ok [.ofHexes "x" "#GGGGGG" none] :=
  ⟨by decide +kernel, by decide +kernel⟩

/-- The manifests of that entry. -/
def writeLetters : Action Unit := do
  writeText (Manifest.pathIn "out") Manifest.rootText
  [lettersColor].forM (writeShown "out" (Manifest.paramsOf ungroupedEntry))

open scoped Engine in
/-- A run over these letters succeeds. -/
theorem exists_generate_letters : ∃ world',
    outcome (generate letters ungroupedEntry) ⟨⟨[], []⟩, []⟩ = (.ok (), world') := by
  obtain ⟨hspec, hcolors⟩ := read_letters
  have hitems : ∀ shown ∈ [lettersColor], shown.Holds := by
    simp only [List.forall_mem_singleton]
    exact ⟨by decide +kernel, by decide +kernel, by decide +kernel⟩
  have hwrites : (outcome writeLetters ⟨⟨[], []⟩, []⟩).1.isOk = true := by
    decide +kernel
  obtain ⟨world', hresult⟩ := exists_of_isOk hwrites
  obtain ⟨log, hgenerate⟩ := generate_of_writes hspec hcolors rfl hitems hresult
  exact ⟨_, hgenerate⟩

/-- The letters come through as they stand. -/
theorem components?_letters : Rgba.components? "#GGGGGG" = some lettersRgba := by
  decide +kernel

/-- They are no bytes in hexadecimal form. -/
theorem not_bytes_letters : ¬ lettersRgba.Bytes := by
  rw [Rgba.bytes_iff components?_letters]
  decide +kernel

open scoped Engine in
/-- The colour of letters is generated, and its channels are no bytes. Each of them is `0x` with the
two letters, as they stand in the text. -/
theorem generate_letters : ∃ world',
    outcome (generate letters ungroupedEntry) ⟨⟨[], []⟩, []⟩ = (.ok (), world') ∧
      world'.tree.read "out/x.colorset/Contents.json" =
        .ok (manifest "srgb" lettersRgba none).toUTF8 ∧
      ¬ lettersRgba.Bytes := by
  obtain ⟨world', hgenerate⟩ := exists_generate_letters
  refine ⟨world', hgenerate, ?_, not_bytes_letters⟩
  obtain ⟨spec, colors, start, finish, hspec, hcolors, -, hwrite, htree⟩ := generate_steps hgenerate
  obtain rfl := Except.ok.inj (read_letters.1.symm.trans hspec)
  obtain rfl := Except.ok.inj (read_letters.2.symm.trans hcolors)
  obtain ⟨⟨⟩, rooted, -, hcolor⟩ := outcome_bind_ok_iff.1 hwrite
  have hpath : manifestPath "out" (.finish none (.ofHexes "x" "#GGGGGG" none)) =
      "out/x.colorset/Contents.json" := by
    decide +kernel
  have hspace : colorSpace (Manifest.paramsOf ungroupedEntry) = "srgb" := by
    decide +kernel
  -- the colour is the only one, so no later manifest can take its place
  have halone : outcome (([] ++ Color.finish none (.ofHexes "x" "#GGGGGG" none) :: []).forM
      (writeColor "out" (Manifest.paramsOf ungroupedEntry))) rooted = (.ok (), finish) := hcolor
  obtain ⟨light, dark, hchannels, hread⟩ := read_manifest halone (List.forall_mem_nil _)
  obtain rfl := Option.some.inj (components?_letters.symm.trans hchannels.light)
  obtain rfl : dark = none := by
    cases dark with
    | none => rfl
    | some rgba => cases hchannels.dark
  rw [htree, ← hpath, ← hspace]
  exact hread

/-- A document with that colour and one that is too short. -/
def short : Project :=
  ⟨.ofMembers [("c", .object [("x", colorLeaf "#GGGGGG"), ("y", colorLeaf "#12345")])], ""⟩

/-- In a second fixture, a text that is too short follows the letters. -/
theorem read_short :
    Spec.read short.token ungroupedEntry =
        .ok ⟨"out", [⟨"x", ⟨"color", .string "#GGGGGG", none⟩⟩,
          ⟨"y", ⟨"color", .string "#12345", none⟩⟩], []⟩ ∧
      Color.combine [⟨"x", ⟨"color", .string "#GGGGGG", none⟩⟩,
          ⟨"y", ⟨"color", .string "#12345", none⟩⟩] [] =
        .ok [.ofHexes "x" "#GGGGGG" none, .ofHexes "y" "#12345" none] :=
  ⟨by decide +kernel, by decide +kernel⟩

open scoped Engine in
/-- Six letters have a manifest whose channels are no bytes. A text of five characters ends the
entry behind them. -/
theorem channels_of_generate_letters :
    (∃ world' items, outcome (generate letters ungroupedEntry) ⟨⟨[], []⟩, []⟩ = (.ok (), world') ∧
      List.Forall₂ (Shows none) [.ofHexes "x" "#GGGGGG" none] items ∧
      ¬ ∀ shown ∈ items, ∀ rgba ∈ shown.appearances, rgba.Bytes) ∧
    settled (outcome (generate short ungroupedEntry) ⟨⟨[], []⟩, []⟩) =
      andThen (inTurn [writeText "out/Contents.json" Manifest.rootText,
          writeColor "out" (.object []) (.finish none (.ofHexes "x" "#GGGGGG" none))] ⟨[], []⟩)
        fun tree => (.error (.ofProblem (.malformedColorValue "y" "#12345")), tree) := by
  constructor
  · obtain ⟨world', hgenerate⟩ := exists_generate_letters
    obtain ⟨items, hitems, -, hbytes⟩ :=
      (channels_of_generate read_letters.1 read_letters.2 _).1 world' hgenerate
    refine ⟨world', items, hgenerate, hitems, ?_⟩
    rw [hbytes]
    decide +kernel
  · exact (channels_of_generate read_short.1 read_short.2 _).2 [.ofHexes "x" "#GGGGGG" none]
      (.ofHexes "y" "#12345" none) [] "#12345" rfl (by decide +kernel)

end ColorSet

end DesignTokens

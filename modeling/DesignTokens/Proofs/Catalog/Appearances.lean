import DesignTokens.Proofs.Catalog.Color

/-!
# Appearances through the stages

Stages of a colour catalog may run in any order and as often as one likes. `Shows` says what an
appearance holds: its text, the channels of the text if they were added and the text has them, and
nothing else. `Drawn` says it of both appearances of a colour, whose texts differ. Two stages only
rename (`Renames`) and the third adds channels; each keeps the texts, and channels that are there
already are replaced by the same ones, so that only matters whether the third stage ran at all
(`run_keeps_appearances`).
-/

set_option autoImplicit false

namespace DesignTokens.Color

/-! ### What an appearance holds -/

/-- The appearance holds the text, and its channels if it has some and they were added. -/
structure Shows (enriched : Prop) (hex : String) (members : Members) : Prop where
  ascending : Keyed.Ascending members
  keys : ∀ member ∈ members, member.1 = "hex" ∨ member.1 = "rgba"
  text : members.lookup "hex" = some (.string hex)
  rgba : ∀ value, members.lookup "rgba" = some value ↔
    enriched ∧ ∃ rgba, Rgba.components? hex = some rgba ∧ value = rgba.toValue

/-- An appearance as it comes from a hex code shows that code, and no channels yet. -/
theorem shows_appearance (hex : String) : Shows False hex (appearance hex) where
  ascending := ⟨List.forall_mem_nil _, trivial⟩
  keys := List.forall_mem_singleton.2 (.inl rfl)
  text := rfl
  rgba := fun _ => ⟨nofun, fun h => h.1.elim⟩

/-- Adding channels has the same result whether they are there already or not, since they are
made from the text of the appearance, which stays. So repeating the stage changes nothing. -/
theorem Shows.enrich {enriched : Prop} {hex : String} {members : Members}
    (h : Shows enriched hex members) : Shows True hex (Rgba.enrich members) := by
  unfold Rgba.enrich
  rw [h.text]
  simp only [Option.bind_some, Value.string?]
  cases hcomponents : Rgba.components? hex with
  | none =>
    -- without channels nothing is added, and none were there
    refine ⟨h.ascending, h.keys, h.text, fun value => ?_⟩
    rw [h.rgba, hcomponents]
    constructor
    · rintro ⟨-, _, hnone, -⟩
      cases hnone
    · rintro ⟨-, _, hnone, -⟩
      cases hnone
  | some rgba =>
    refine ⟨Keyed.ascending_insert h.ascending, fun member hmem => ?_, ?_, fun value => ?_⟩
    · rcases Keyed.mem_insert hmem with rfl | hmem
      · exact .inr rfl
      · exact h.keys member hmem
    · rw [Keyed.lookup_insert_of_ne (by decide), h.text]
    · rw [Keyed.lookup_insert_self, hcomponents]
      constructor
      · intro hvalue
        exact ⟨trivial, rgba, rfl, (Option.some.inj hvalue).symm⟩
      · rintro ⟨-, _, hrgba, rfl⟩
        cases hrgba
        rfl

/-- The colour has a light text, and a dark one or none, and shows them. -/
structure Drawn (enriched : Prop) (hex : String) (darkHex : Option String) (color : Color) :
    Prop where
  any : Shows enriched hex color.any
  dark : Option.Rel (Shows enriched) darkHex color.dark
  differs : darkHex ≠ some hex

section
variable {enriched : Prop} {hex : String} {darkHex : Option String} {color : Color}

/-- A new name changes nothing of what a colour shows. -/
theorem Drawn.rename (h : Drawn enriched hex darkHex color) (name : String) :
    Drawn enriched hex darkHex { color with name } :=
  ⟨h.any, h.dark, h.differs⟩

/-- Adding the channels keeps both hex codes and makes both appearances enriched. -/
theorem Drawn.enrich (h : Drawn enriched hex darkHex color) :
    Drawn True hex darkHex
      { color with any := Rgba.enrich color.any, dark := color.dark.map Rgba.enrich } := by
  refine ⟨h.any.enrich, ?_, h.differs⟩
  obtain ⟨name, any, members⟩ := color
  cases h.dark with
  | none => exact .none
  | some hshows => exact .some hshows.enrich

end

/-- Combined colours hold their texts and nothing else. -/
theorem drawn_of_combine {any dark : List TokenValue} {colors : List Color}
    (h : combine any dark = .ok colors) :
    ∀ color ∈ colors, ∃ hex darkHex, Drawn False hex darkHex color := by
  refine forall_of_combine (fun name any dark color hentries => ?_) h
  obtain ⟨hex, -, rfl⟩ := ofEntries_eq_ok_iff.1 hentries
  refine ⟨hex, darkHex? hex dark, shows_appearance hex, ?_, fun heq => ?_⟩
  · show Option.Rel _ (darkHex? hex dark) ((darkHex? hex dark).map appearance)
    cases darkHex? hex dark with
    | none => exact .none
    | some other => exact .some (shows_appearance other)
  · have hdiffers := (Option.filter_eq_some_iff.1 heq).2
    simp at hdiffers

/-! ### What a stage keeps -/

/-- The stage changes names only, each by itself. -/
def Renames (stage : Stage Color) : Prop :=
  ∀ options, ∃ change : String → String, ∀ colors,
    stage options colors = colors.map fun color => { color with name := change color.name }

/-- The prefix stage only renames. -/
theorem renames_addPrefix : Renames Stage.addPrefix := by
  intro options
  unfold Stage.addPrefix
  cases Key.addPrefix.optional? Shape.string options with
  | none => exact ⟨id, fun colors => (List.map_id colors).symm⟩
  | some start => exact ⟨fun name => start ++ upperFirst name, fun _ => rfl⟩

/-- So does the suffix stage. -/
theorem renames_addSuffix : Renames Stage.addSuffix := by
  intro options
  unfold Stage.addSuffix
  cases Key.addSuffix.optional? Shape.string options with
  | none => exact ⟨id, fun colors => (List.map_id colors).symm⟩
  | some ending => exact ⟨fun name => name ++ ending, fun _ => rfl⟩

/-- The stage that adds the channels does more. -/
theorem not_renames_hexToRgba : ¬ Renames hexToRgba := by
  intro h
  obtain ⟨change, hchange⟩ := h none
  have hany : [Rgba.enrich (appearance "#000000")] = [appearance "#000000"] :=
    congrArg (List.map Color.any) (hchange [ofHexes "" "#000000" none])
  exact absurd hany (by decide)

/-- Every stage for colours either renames only or is the one that adds the channels. -/
theorem mem_stages_cases {stage : Stage Color} (h : stage ∈ stages) :
    Renames stage ∨ stage = hexToRgba := by
  simp only [stages, List.mem_cons, List.not_mem_nil, or_false] at h
  rcases h with rfl | rfl | rfl
  · exact .inl renames_addPrefix
  · exact .inl renames_addSuffix
  · exact .inr rfl

/-- The colours are the same as before, one by one and in the same order, up to their names, which
were changed by one rule, and to channels. -/
def Kept (enriched : Prop) (colors now : List Color) : Prop :=
  ∃ change : String → String, List.Forall₂ (fun before after => after.name = change before.name ∧
    ∃ hex darkHex, Drawn False hex darkHex before ∧ Drawn enriched hex darkHex after) colors now

/-- Right after combining, the list is kept as it is and without channels. -/
theorem kept_of_combine {any dark : List TokenValue} {colors : List Color}
    (h : combine any dark = .ok colors) : Kept False colors colors := by
  refine ⟨id, List.forall₂_same.2 fun color hmem => ⟨rfl, ?_⟩⟩
  obtain ⟨hex, darkHex, hdrawn⟩ := drawn_of_combine h color hmem
  exact ⟨hex, darkHex, hdrawn, hdrawn⟩

section
variable {enriched : Prop} {colors now : List Color}

/-- A renaming stage keeps number, order and appearances. -/
theorem Kept.rename (h : Kept enriched colors now) {stage : Stage Color} (hstage : Renames stage)
    (options : Option Value) : Kept enriched colors (stage options now) := by
  obtain ⟨change, hkept⟩ := h
  obtain ⟨again, hagain⟩ := hstage options
  refine ⟨again ∘ change, ?_⟩
  rw [hagain, List.forall₂_map_right_iff]
  refine hkept.imp ?_
  rintro before after ⟨hname, hex, darkHex, hbefore, hafter⟩
  exact ⟨congrArg again hname, hex, darkHex, hbefore, hafter.rename _⟩

/-- The channel stage keeps them too and enriches every colour. -/
theorem Kept.enrich (h : Kept enriched colors now) (options : Option Value) :
    Kept True colors (hexToRgba options now) := by
  obtain ⟨change, hkept⟩ := h
  refine ⟨change, ?_⟩
  rw [hexToRgba, List.forall₂_map_right_iff]
  refine hkept.imp ?_
  rintro before after ⟨hname, hex, darkHex, hbefore, hafter⟩
  exact ⟨hname, hex, darkHex, hbefore, hafter.enrich⟩

/-- A sequence of stages keeps the colours. It has added channels if they were there before or the
third stage is among them. -/
theorem Kept.run (h : Kept enriched colors now) {chosen : List (Stage Color)}
    (hchosen : chosen ⊆ stages) (entry : Option Value) :
    Kept (enriched ∨ hexToRgba ∈ chosen) colors (Stage.run chosen entry now) := by
  induction chosen generalizing enriched now with
  | nil =>
    have hnone : (enriched ∨ hexToRgba ∈ ([] : List (Stage Color))) = enriched := by simp
    rw [hnone]
    exact h
  | cons stage chosen ih =>
    obtain ⟨hstage, hrest⟩ := List.cons_subset.1 hchosen
    have hrun : Stage.run (stage :: chosen) entry now =
        Stage.run chosen entry (stage (Stage.options? entry) now) := rfl
    rw [hrun, List.mem_cons]
    rcases mem_stages_cases hstage with hrenames | rfl
    · -- a stage that renames is not the one that adds channels
      have hne : hexToRgba ≠ stage := fun heq => not_renames_hexToRgba (heq ▸ hrenames)
      simpa only [hne, false_or] using ih (h.rename hrenames _) hrest
    · simpa only [true_or, or_true] using ih (h.enrich _) hrest

end

/-- The stages of a colour catalog, in any order and with any repetition, keep combined colours one
by one: the texts of their appearances, and whether there is a dark one, whose text differs from
the light one. An appearance holds its text, its channels exactly if the stage that adds them is
among the stages and the text has some, and nothing else. -/
theorem run_keeps_appearances {any dark : List TokenValue} {colors : List Color}
    (h : combine any dark = .ok colors) {chosen : List (Stage Color)} (hchosen : chosen ⊆ stages)
    (entry : Option Value) :
    Kept (hexToRgba ∈ chosen) colors (Stage.run chosen entry colors) := by
  simpa only [false_or] using (kept_of_combine h).run hchosen entry

/-- A leaf with a text, as colours are made of. -/
def hexLeaf (name hex : String) : TokenValue :=
  ⟨name, ⟨"color", .string hex, none⟩⟩

/-- Two light leaves, of which one has a dark leaf with another text; the text of the other one has
no channels. Each stage stands among the chosen ones, and two of them twice. -/
theorem run_keeps_appearances_twice :
    let colors := [ofHexes "a" "#A00000" (some "#A20000"), ofHexes "b" "#B0" none]
    let chosen := [Stage.addSuffix, hexToRgba, Stage.addPrefix, Stage.addSuffix, hexToRgba]
    let entry := some (.object [("process",
      .object [("addPrefix", .string "p"), ("addSuffix", .string "s")])])
    combine [hexLeaf "a" "#A00000", hexLeaf "b" "#B0"]
        [hexLeaf "a" "#A20000", hexLeaf "b" "#B0"] = .ok colors ∧
      chosen ⊆ stages ∧ Kept (hexToRgba ∈ chosen) colors (Stage.run chosen entry colors) ∧
      (Stage.run chosen entry colors).map (fun color => (color.name, color.any.map (·.1),
        color.dark.map (List.map (·.1)))) =
        [("pAss", ["hex", "rgba"], some ["hex", "rgba"]), ("pBss", ["hex"], none)] := by
  intro colors chosen entry
  have hcombine : combine [hexLeaf "a" "#A00000", hexLeaf "b" "#B0"]
      [hexLeaf "a" "#A20000", hexLeaf "b" "#B0"] =
        .ok [ofHexes "a" "#A00000" (some "#A20000"), ofHexes "b" "#B0" none] := by
    decide +kernel
  have hchosen : chosen ⊆ stages := by simp [chosen, stages]
  exact ⟨hcombine, hchosen, run_keeps_appearances hcombine hchosen entry, by decide +kernel⟩

end DesignTokens.Color

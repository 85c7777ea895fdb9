import DesignTokens.Catalog.Color
import DesignTokens.Proofs.Keyed
import DesignTokens.Proofs.Result
import DesignTokens.Proofs.Stage.Sort

/-!
# Colours and their stages

A colour starts as a name and the texts of its appearances (`Color.ofHexes`), and every colour that
`Color.combine` makes is such a start (`raw_of_combine`). The stages give it its final name and add
the channels (`run_stages`). They add channels to an appearance exactly if its text splits
(`lookup_enrich`), so a colour that passes `checkDecoded` holds the channels of its texts
(`decoded_of_checkDecoded`).
-/

set_option autoImplicit false

namespace DesignTokens.Color

/-! ### Raw colours -/

/-- A colour from its name and the texts of its appearances. -/
def ofHexes (name hex : String) (dark : Option String) : Color :=
  ⟨name, appearance hex, dark.map appearance⟩

/-- A colour that no stage has touched. -/
def Raw (color : Color) : Prop :=
  ∃ hex dark, color = ofHexes color.name hex dark

/-- The dark text that counts next to a light one: that of a leaf that is a string and differs. -/
def darkHex? (hex : String) (dark : Option Entry) : Option String :=
  (dark.bind (·.value.string?)).filter (· ≠ hex)

/-- A colour comes from a light leaf that is a string. -/
theorem ofEntries_eq_ok_iff {name : String} {any : Entry} {dark : Option Entry} {color : Color} :
    ofEntries name any dark = .ok color ↔
      ∃ hex, any.value.string? = some hex ∧ color = ofHexes name hex (darkHex? hex dark) := by
  unfold ofEntries
  cases any.value.string? with
  | none => simp
  | some hex =>
    constructor
    · intro h
      cases h
      exact ⟨hex, rfl, rfl⟩
    · rintro ⟨_, heq, rfl⟩
      cases heq
      rfl

/-- A colour that was just made has no channels yet. -/
theorem raw_ofEntries {name : String} {any : Entry} {dark : Option Entry} {color : Color}
    (h : ofEntries name any dark = .ok color) : Raw color := by
  obtain ⟨hex, -, rfl⟩ := ofEntries_eq_ok_iff.1 h
  exact ⟨hex, _, rfl⟩

/-- Pairing a light leaf and then the others. -/
theorem pair_cons_eq_ok_iff {dark rest : List (String × Entry)} {token : TokenValue}
    {tokens : List TokenValue} {all : List Color} :
    pair dark (token :: tokens) = .ok (all, rest) ↔
      ∃ color colors, ofEntries token.name token.entry (dark.lookup token.name) = .ok color ∧
        pair (Keyed.erase token.name dark) tokens = .ok (colors, rest) ∧
        all = color :: colors := by
  rw [pair, Result.bind_eq_ok_iff]
  simp only [Result.bind_eq_ok_iff, Prod.exists, pure, Except.pure, Except.ok.injEq,
    Prod.mk.injEq]
  constructor
  · rintro ⟨color, hcolor, colors, left, hpair, rfl, rfl⟩
    exact ⟨color, colors, hcolor, hpair, rfl⟩
  · rintro ⟨color, colors, hcolor, hpair, rfl⟩
    exact ⟨color, hcolor, colors, rest, hpair, rfl, rfl⟩

/-- What holds of the colour of every leaf holds of all paired ones. -/
theorem forall_of_pair {P : Color → Prop}
    (hcolor : ∀ name any dark color, ofEntries name any dark = .ok color → P color)
    {dark rest : List (String × Entry)} {any : List TokenValue} {colors : List Color}
    (h : pair dark any = .ok (colors, rest)) : ∀ color ∈ colors, P color := by
  induction any generalizing dark colors with
  | nil =>
    cases h
    simp
  | cons token tokens ih =>
    obtain ⟨color, later, hfirst, hlater, rfl⟩ := pair_cons_eq_ok_iff.1 h
    intro found hmem
    rcases List.mem_cons.1 hmem with rfl | hmem
    · exact hcolor _ _ _ _ hfirst
    · exact ih hlater found hmem

/-- What two lists of leaves combine to: the paired colours, and those of the dark leaves that are
left, in the order of their names. -/
theorem combine_eq_ok_iff {any dark : List TokenValue} {colors : List Color} :
    combine any dark = .ok colors ↔
      ∃ paired rest single,
        pair (Keyed.ofList (dark.map fun token => (token.name, token.entry))) any =
          .ok (paired, rest) ∧
        List.Forall₂ (fun entry color => ofEntries entry.1 entry.2 none = .ok color) rest single ∧
        colors = Stage.sortBy Stage.nameLess (paired ++ single) := by
  rw [combine]
  simp only [Result.bind_eq_ok_iff, Result.mapM_eq_ok_iff, Prod.exists, pure, Except.pure,
    Except.ok.injEq]
  constructor
  · rintro ⟨paired, rest, hpair, single, hsingle, rfl⟩
    exact ⟨paired, rest, single, hpair, hsingle, rfl⟩
  · rintro ⟨paired, rest, single, hpair, hsingle, rfl⟩
    exact ⟨paired, rest, hpair, single, hsingle, rfl⟩

/-- What holds of the colour of every leaf holds of all combined ones. -/
theorem forall_of_combine {P : Color → Prop}
    (hcolor : ∀ name any dark color, ofEntries name any dark = .ok color → P color)
    {any dark : List TokenValue} {colors : List Color} (h : combine any dark = .ok colors) :
    ∀ color ∈ colors, P color := by
  obtain ⟨paired, rest, single, hpair, hsingle, rfl⟩ := combine_eq_ok_iff.1 h
  intro color hmem
  rcases List.mem_append.1 (Stage.mem_sortBy.1 hmem) with hmem | hmem
  · exact forall_of_pair hcolor hpair color hmem
  · obtain ⟨entry, -, hentry⟩ := Result.exists_of_mem_right hsingle hmem
    exact hcolor _ _ _ _ hentry

/-- Every combined colour is raw: its appearances hold their texts and no channels yet. Both ways to
make a colour, from a pair and from a dark leaf alone, go through `ofEntries`, so it is enough to
look there. -/
theorem raw_of_combine {any dark : List TokenValue} {colors : List Color}
    (h : combine any dark = .ok colors) : ∀ color ∈ colors, Raw color :=
  forall_of_combine (fun _ _ _ _ => raw_ofEntries) h

/-! ### Stages -/

/-- The name that the options of an entry give. -/
def finalName (options : Option Value) (name : String) : String :=
  let prefixed :=
    match Key.addPrefix.optional? Shape.string options with
    | none => name
    | some start => start ++ upperFirst name
  match Key.addSuffix.optional? Shape.string options with
  | none => prefixed
  | some ending => prefixed ++ ending

/-- What the stages make of a colour. -/
def finish (options : Option Value) (color : Color) : Color :=
  ⟨finalName options color.name, Rgba.enrich color.any, color.dark.map Rgba.enrich⟩

/-- The stages treat each colour on its own, so a run of them is the map of one function over the
list. Which of them change anything depends on the options alone; the cases are whether a prefix and
a suffix are given. -/
theorem run_stages (entry : Option Value) (colors : List Color) :
    Stage.run stages entry colors = colors.map (finish (Stage.options? entry)) := by
  have hrun : Stage.run stages entry colors =
      hexToRgba (Stage.options? entry) (Stage.addSuffix (Stage.options? entry)
        (Stage.addPrefix (Stage.options? entry) colors)) := rfl
  rw [hrun]
  unfold hexToRgba Stage.addSuffix Stage.addPrefix
  cases hprefix : Key.addPrefix.optional? Shape.string (Stage.options? entry) <;>
    cases hsuffix : Key.addSuffix.optional? Shape.string (Stage.options? entry) <;>
    simp [finish, finalName, hprefix, hsuffix, Named.rename, Named.name]

/-- An appearance gets channels exactly if its text splits into channels. A text that does not split
leaves the appearance as it was, and only the check in front of the files finds that out. -/
theorem lookup_enrich (hex : String) :
    (Rgba.enrich (appearance hex)).lookup "rgba" =
      (Rgba.components? hex).map Rgba.toValue := by
  have hhex : (appearance hex).lookup "hex" = some (.string hex) := rfl
  have hnone : (appearance hex).lookup "rgba" = none := rfl
  unfold Rgba.enrich
  rw [hhex]
  simp only [Option.bind_some, Value.string?]
  cases Rgba.components? hex with
  | none => exact hnone
  | some rgba => rfl

/-- A colour whose appearances hold these channels. -/
structure Decoded (color : Color) (light : Rgba) (dark : Option Rgba) : Prop where
  light : color.any.lookup "rgba" = some light.toValue
  dark : color.dark.map (·.lookup "rgba") = dark.map fun rgba => some rgba.toValue

/-- The channels of the texts of a colour. -/
structure Channels (hex : String) (darkHex : Option String) (light : Rgba)
    (dark : Option Rgba) : Prop where
  light : Rgba.components? hex = some light
  dark : darkHex.map Rgba.components? = dark.map some

/-- The dark appearance of a decoded colour, if there is one, holds channels. The two cases are
those that the template tells apart. -/
theorem Decoded.dark_cases {color : Color} {light : Rgba} {dark : Option Rgba}
    (h : color.Decoded light dark) :
    (color.dark = none ∧ dark = none) ∨
      ∃ members rgba, color.dark = some members ∧ dark = some rgba ∧
        members.lookup "rgba" = some rgba.toValue := by
  have hdark := h.dark
  cases hc : color.dark with
  | none =>
    rw [hc] at hdark
    exact Or.inl ⟨rfl, by simpa using hdark.symm⟩
  | some members =>
    rw [hc] at hdark
    cases dark with
    | none => simp at hdark
    | some rgba =>
      exact Or.inr ⟨members, rgba, rfl, rfl, by simpa using hdark⟩

/-- An appearance passes the check if it has channels. -/
theorem checkAppearance_eq_ok_iff {color : Color} {appearance : Members} :
    color.checkAppearance appearance = .ok () ↔ (appearance.lookup "rgba").isSome = true := by
  unfold checkAppearance
  split <;> simp_all

/-- A colour passes if its appearances do, the dark one where there is one. -/
theorem checkDecoded_eq_ok_iff {color : Color} :
    color.checkDecoded = .ok () ↔
      color.checkAppearance color.any = .ok () ∧
        ∀ dark ∈ color.dark, color.checkAppearance dark = .ok () := by
  rw [checkDecoded, Result.bind_eq_ok_iff]
  cases color.dark with
  | none => exact ⟨fun ⟨(), hany, _⟩ => ⟨hany, by simp⟩, fun h => ⟨(), h.1, rfl⟩⟩
  | some dark =>
    constructor
    · rintro ⟨⟨⟩, hany, hdark⟩
      exact ⟨hany, by simpa using hdark⟩
    · rintro ⟨hany, hdark⟩
      exact ⟨(), hany, hdark dark rfl⟩

/-- A colour that passes the check holds the channels of its texts, those of the dark one too if it
has one. So what is written for a colour can be told from its two texts. -/
theorem decoded_of_checkDecoded {options : Option Value} {name hex : String}
    {darkHex : Option String}
    (h : (finish options (ofHexes name hex darkHex)).checkDecoded = .ok ()) :
    ∃ light dark, Channels hex darkHex light dark ∧
      Decoded (finish options (ofHexes name hex darkHex)) light dark := by
  obtain ⟨hany, hdark⟩ := checkDecoded_eq_ok_iff.1 h
  have hlight := lookup_enrich hex
  rw [checkAppearance_eq_ok_iff, finish, ofHexes, hlight, Option.isSome_map,
    Option.isSome_iff_exists] at hany
  obtain ⟨light, hcomponents⟩ := hany
  rw [hcomponents] at hlight
  cases darkHex with
  | none => exact ⟨light, none, ⟨hcomponents, rfl⟩, ⟨hlight, rfl⟩⟩
  | some other =>
    have hother := lookup_enrich other
    have hsome := checkAppearance_eq_ok_iff.1 (hdark (Rgba.enrich (appearance other)) rfl)
    rw [hother, Option.isSome_map, Option.isSome_iff_exists] at hsome
    obtain ⟨rgba, hrgba⟩ := hsome
    rw [hrgba] at hother
    refine ⟨light, some rgba, ⟨hcomponents, by simp [hrgba]⟩, ⟨hlight, ?_⟩⟩
    simpa [finish, ofHexes] using hother

end DesignTokens.Color

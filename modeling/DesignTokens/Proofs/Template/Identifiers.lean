import DesignTokens.Proofs.Template.DeclarationLines
import DesignTokens.Proofs.Template.Vocabulary

/-!
# The identifiers of colours

A file of colours declares an identifier for each name. A name that starts with a numeric character
gets an underscore in front, and a reserved name becomes another one that starts with `token`.
Both make identifiers that a second name may have of its own: the name takes the identifier of the
other (`Takes`). Nothing else makes two identifiers equal (`colorIdentifier_eq_iff`), because what
is made from a name is left as it is (`Takes.colorIdentifier_right`) and made from no other name
(`Takes.eq`). `color_declarations` says so for whole files.
-/

set_option autoImplicit false

namespace DesignTokens.TemplatedFile

open Template BundledTemplate FilterFunction

/-- With an underscore or the word `token` in front the first name becomes the second one, whose own
identifier it takes. -/
inductive Takes : String → String → Prop where
  | digit {name : String} (h : name.toList.head?.any Text.isNumeric = true) :
      Takes name ("_" ++ name)
  | reserved {name : String} (h : name ∈ colorNames) : Takes name ("token" ++ upperFirst name)

/-! ### One name -/

/-- A colour gets the identifier of its name with the reserved names avoided. -/
theorem colorIdentifier_eq_avoid (name : String) :
    colorIdentifier name = avoid colorNames "token" (identifier name) := rfl

/-- A name that starts with a digit gets an underscore in front. -/
theorem identifier_of_digit {name : String} (h : name.toList.head?.any Text.isNumeric = true) :
    identifier name = "_" ++ name :=
  if_pos h

/-- Any other name is its own identifier. -/
theorem identifier_of_not_digit {name : String}
    (h : name.toList.head?.any Text.isNumeric = false) : identifier name = name :=
  if_neg (by simp [h])

/-- No reserved name starts with an underscore. -/
theorem underscore_not_mem (name : String) : "_" ++ name ∉ colorNames := by
  intro hmem
  have hhead : ∀ other ∈ colorNames, other.toList.head? ≠ some '_' := by decide
  exact hhead _ hmem (by simp)

/-- No reserved name starts with a numeric character. -/
theorem not_digit_of_mem {name : String} (h : name ∈ colorNames) :
    name.toList.head?.any Text.isNumeric = false := by
  have hall : ∀ other ∈ colorNames, other.toList.head?.any Text.isNumeric = false := by
    decide +kernel
  exact hall name h

/-- The identifier of a name is the name, unless the name takes another one. -/
theorem colorIdentifier_cases (name : String) :
    Takes name (colorIdentifier name) ∨ colorIdentifier name = name := by
  rw [colorIdentifier_eq_avoid]
  by_cases hdigit : name.toList.head?.any Text.isNumeric = true
  · rw [identifier_of_digit hdigit, avoid_of_not_mem (underscore_not_mem name)]
    exact .inl (.digit hdigit)
  · rw [identifier_of_not_digit (Bool.eq_false_iff.2 hdigit)]
    by_cases hmem : name ∈ colorNames
    · rw [avoid_of_mem hmem]
      exact .inl (.reserved hmem)
    · exact .inr (avoid_of_not_mem hmem)

namespace Takes

/-- A name that takes another form is declared under that form. -/
theorem colorIdentifier_left {name other : String} (h : Takes name other) :
    colorIdentifier name = other := by
  rw [colorIdentifier_eq_avoid]
  cases h with
  | digit hdigit => rw [identifier_of_digit hdigit, avoid_of_not_mem (underscore_not_mem name)]
  | reserved hmem => rw [identifier_of_not_digit (not_digit_of_mem hmem), avoid_of_mem hmem]

/-- What is made from a name is neither reserved nor does it start with a numeric character. So it
is its own identifier, and it clashes with the name that it was made from. -/
theorem colorIdentifier_right {name other : String} (h : Takes name other) :
    colorIdentifier other = other := by
  rw [colorIdentifier_eq_avoid]
  cases h with
  | digit hdigit =>
    have hhead : ("_" ++ name).toList.head?.any Text.isNumeric = false := by
      rw [String.toList_append]
      rfl
    rw [identifier_of_not_digit hhead, avoid_of_not_mem (underscore_not_mem name)]
  | reserved hmem =>
    have hhead : ("token" ++ upperFirst name).toList.head?.any Text.isNumeric = false := by
      rw [String.toList_append]
      rfl
    -- no prefix at all makes a reserved colour of another one
    have hfree : "token" ++ upperFirst name ∉ colorNames := by
      intro hagain
      have hfusion := mem_fusions_iff.2 ⟨hmem, hagain⟩
      rw [fusions_colorNames] at hfusion
      cases hfusion
    rw [identifier_of_not_digit hhead, avoid_of_not_mem hfree]

/-- No two names take the same identifier. An underscore and the first letter of `token` tell the
two ways of taking apart, and within each way the name can be read off. -/
theorem eq {name other taken : String} (h : Takes name taken) (hother : Takes other taken) :
    name = other := by
  have hinjective : ∀ name ∈ colorNames, ∀ other ∈ colorNames,
      upperFirst name = upperFirst other → name = other := by
    decide +kernel
  generalize htaken : taken = text at hother
  -- an underscore and the `t` of `token` tell the two ways of taking apart
  cases h with
  | digit _ =>
    cases hother with
    | digit _ => simpa using htaken
    | reserved _ => simpa using congrArg (fun s => s.toList.head?) htaken
  | reserved hmem =>
    cases hother with
    | digit _ => simpa using congrArg (fun s => s.toList.head?) htaken
    | reserved hmem' => exact hinjective _ hmem _ hmem' (by simpa using htaken)

/-- No name takes itself. -/
theorem ne {name other : String} (h : Takes name other) : name ≠ other := by
  cases h with
  | digit _ =>
    intro heq
    have hlength : name.length = 1 + name.length := by
      simpa using congrArg String.length heq
    omega
  | reserved hmem =>
    have hall : ∀ other ∈ colorNames, other ≠ "token" ++ upperFirst other := by decide +kernel
    exact hall name hmem

end Takes

/-- A name takes another form exactly if its identifier differs from it. -/
theorem takes_iff {name other : String} :
    Takes name other ↔ colorIdentifier name = other ∧ name ≠ other := by
  refine ⟨fun h => ⟨h.colorIdentifier_left, h.ne⟩, ?_⟩
  rintro ⟨rfl, hne⟩
  exact (colorIdentifier_cases name).resolve_right fun heq => hne heq.symm

instance (name other : String) : Decidable (Takes name other) :=
  decidable_of_iff _ takes_iff.symm

/-! ### Two names -/

/-- Two identifiers are equal only if one name takes the other. Each identifier is the name itself
or taken by it, which makes four cases; that both are taken is left out by `Takes.eq`. -/
theorem colorIdentifier_eq_iff {name other : String} :
    colorIdentifier name = colorIdentifier other ↔
      name = other ∨ Takes name other ∨ Takes other name := by
  constructor
  · intro heq
    -- each of the two identifiers is taken or is the name itself
    rcases colorIdentifier_cases name with htakes | hname
    · rcases colorIdentifier_cases other with htakes' | hother
      · rw [← heq] at htakes'
        exact .inl (htakes.eq htakes')
      · rw [heq, hother] at htakes
        exact .inr (.inl htakes)
    · rcases colorIdentifier_cases other with htakes' | hother
      · rw [← heq, hname] at htakes'
        exact .inr (.inr htakes')
      · exact .inl (by rw [← hname, heq, hother])
  · rintro (rfl | htakes | htakes)
    · rfl
    · rw [htakes.colorIdentifier_left, htakes.colorIdentifier_right]
    · rw [htakes.colorIdentifier_left, htakes.colorIdentifier_right]

/-! ### Files of colours -/

/-- The names that a file declares. -/
def declared (inputs : List (Value × List TokenValue)) : List String :=
  (inputs.flatMap (·.2)).map (·.name)

/-- Names that differ have identifiers that differ exactly if none of them takes another one. -/
theorem nodup_colorIdentifiers_iff {names : List String} (h : names.Nodup) :
    (names.map colorIdentifier).Nodup ↔
      ∀ name ∈ names, ∀ other ∈ names, ¬ Takes name other := by
  rw [List.nodup_map_iff_inj_on h]
  constructor
  · intro hinjective name hname other hother htakes
    have heq := colorIdentifier_eq_iff.2 (.inr (.inl htakes))
    exact htakes.ne (hinjective name hname other hother heq)
  · intro hfree name hname other hother heq
    rcases colorIdentifier_eq_iff.1 heq with rfl | htakes | htakes
    · rfl
    · exact absurd htakes (hfree name hname other hother)
    · exact absurd htakes (hfree other hother name hname)

/-- The template for colours renders to the lines of its inputs, one after the other. -/
theorem render_colors [Engine] (output : Value) (inputs : List (Value × List TokenValue)) :
    Template.render colors.name colors.content (context (shownAll inputs) output) =
      .ok (lines (colorsLines inputs)) := by
  rw [← colorsText_eq]
  exact Template.render_eq_ok_iff.2 (renderText_colors output inputs)

/-- Two names that differ have one identifier exactly if one of them takes the other. The template
of colours declares, for any inputs and parameters, the identifiers of the names in order; if the
names differ and none of them takes another one, no identifier is declared twice. -/
theorem color_declarations [Engine] :
    (∀ name other, name ≠ other →
      (colorIdentifier name = colorIdentifier other ↔ Takes name other ∨ Takes other name)) ∧
    ∀ (output : Value) (inputs : List (Value × List TokenValue)),
      Template.render colors.name colors.content (context (shownAll inputs) output) =
        .ok (lines (colorsLines inputs)) ∧
      ((declared inputs).Nodup →
        (((declared inputs).map colorIdentifier).Nodup ↔
          ∀ name ∈ declared inputs, ∀ other ∈ declared inputs, ¬ Takes name other)) := by
  refine ⟨fun name other hne => ?_, fun output inputs =>
    ⟨render_colors output inputs, nodup_colorIdentifiers_iff⟩⟩
  rw [colorIdentifier_eq_iff, or_iff_right hne]

open scoped Engine in
/-- The names `black`, `1` and `brand` are declared under three identifiers. -/
theorem color_declarations_brand :
    colorIdentifier "black" ≠ colorIdentifier "brand" ∧
      (["black", "1", "brand"].map colorIdentifier).Nodup := by
  obtain ⟨hpair, hfile⟩ := color_declarations
  have hnames := (hfile .null [(.null, ["black", "1", "brand"].map fun name =>
    ⟨name, "color", .string "#000000", none⟩)]).2
  have hfree : ∀ name ∈ ["black", "1", "brand"], ∀ other ∈ ["black", "1", "brand"],
      ¬ Takes name other := by
    decide +kernel
  refine ⟨fun heq => ?_, (hnames (by decide)).2 hfree⟩
  rcases (hpair "black" "brand" (by decide)).1 heq with htakes | htakes
  · exact hfree _ (by decide) _ (by decide) htakes
  · exact hfree _ (by decide) _ (by decide) htakes

open scoped Engine in
/-- The names `tokenBlack` and `_1` are the identifiers of `black` and `1`, so a file with all four
declares two identifiers twice. -/
theorem declared_twice :
    ["black", "tokenBlack", "1", "_1"].Nodup ∧
    Template.render colors.name colors.content (context (shownAll
        [(.null, ["black", "tokenBlack", "1", "_1"].map fun name =>
          ⟨name, "color", .string "#000000", none⟩)]) .null) =
      .ok (lines
        ["// Generated by tokengen. Do not edit.", "", "import SwiftUI", "",
          "public extension Color \x7b",
          "    static let tokenBlack = Color(\"black\")",
          "    static let tokenBlack = Color(\"tokenBlack\")",
          "    static let _1 = Color(\"1\")",
          "    static let _1 = Color(\"_1\")",
          "\x7d"]) := by
  refine ⟨by decide, ?_⟩
  rw [render_colors]
  refine congrArg (fun content => Except.ok (lines content)) ?_
  decide +kernel

end DesignTokens.TemplatedFile

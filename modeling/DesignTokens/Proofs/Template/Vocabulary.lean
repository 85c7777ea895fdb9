import DesignTokens.Proofs.Text.Case
import DesignTokens.Template.Filters

/-!
# Names apart from a vocabulary

A filter that keeps names apart from a vocabulary puts its prefix before the capitalized name. It
looks only once: if the prefix and the capitalized name are a member again, this member comes out,
and a second call would change it. `fusions` computes for any vocabulary with which prefix and
which name that happens (`mem_fusions_iff`), and all else about the filters follows from it:
`avoid_mem_iff` for any vocabulary, and `reserved_avoided` for the three that are used, which have
two such cases between them.
-/

set_option autoImplicit false

namespace DesignTokens

namespace Template.FilterFunction

/-! ### Any vocabulary -/

/-- The name that comes out for a name under a prefix. -/
def avoid (reserved : List String) (start name : String) : String :=
  if reserved.contains name then start ++ upperFirst name else name

/-- A reserved name gets the prefix in front, with its own first letter in upper case. -/
theorem avoid_of_mem {reserved : List String} {start name : String} (h : name ∈ reserved) :
    avoid reserved start name = start ++ upperFirst name :=
  if_pos (List.contains_iff_mem.2 h)

/-- All other names stay as they are. -/
theorem avoid_of_not_mem {reserved : List String} {start name : String} (h : name ∉ reserved) :
    avoid reserved start name = name :=
  if_neg fun hmem => h (List.contains_iff_mem.1 hmem)

/-- The text in front of an ending. -/
def beforeEnding? (ending text : String) : Option String :=
  (Text.dropStart? ending.toList.reverse text.toList.reverse).map fun rest =>
    String.ofList rest.reverse

/-- The prefixes and the members that together make a member. -/
def fusions (reserved : List String) : List (String × String) :=
  reserved.flatMap fun name => reserved.filterMap fun other =>
    (beforeEnding? (upperFirst name) other).map fun start => (start, name)

/-- The part before an ending is what, together with the ending, gives the text. -/
theorem beforeEnding?_eq_some_iff {ending text start : String} :
    beforeEnding? ending text = some start ↔ text = start ++ ending := by
  simp only [beforeEnding?, Option.map_eq_some_iff, Text.dropStart?_eq_some_iff]
  constructor
  · rintro ⟨rest, htext, rfl⟩
    rw [← String.toList_inj, String.toList_append, String.toList_ofList, ← List.reverse_inj, htext]
    simp
  · rintro rfl
    exact ⟨start.toList.reverse, by simp, by simp⟩

/-- Fusions are the pairs where the name with its prefix is reserved again. The list is found by
cutting each reserved name at the end where another one, with its first letter capitalized,
stands. -/
theorem mem_fusions_iff {reserved : List String} {start name : String} :
    (start, name) ∈ fusions reserved ↔ name ∈ reserved ∧ start ++ upperFirst name ∈ reserved := by
  simp only [fusions, List.mem_flatMap, List.mem_filterMap, Option.map_eq_some_iff,
    beforeEnding?_eq_some_iff, Prod.mk.injEq]
  constructor
  · rintro ⟨_, hname, _, hmem, _, rfl, rfl, rfl⟩
    exact ⟨hname, hmem⟩
  · rintro ⟨hname, hmem⟩
    exact ⟨name, hname, _, hmem, start, rfl, rfl, rfl⟩

/-- What comes out is a member exactly if the prefix and the name make one. A name that is not
reserved is left as it is and so is no member. -/
theorem avoid_mem_iff {reserved : List String} {start name : String} :
    avoid reserved start name ∈ reserved ↔ (start, name) ∈ fusions reserved := by
  rw [mem_fusions_iff]
  by_cases hmem : name ∈ reserved
  · rw [avoid_of_mem hmem, and_iff_right hmem]
  · rw [avoid_of_not_mem hmem]
    simp [hmem]

/-- Capitalizing never makes a name shorter. -/
theorem length_le_upperFirst (name : String) : name.length ≤ (upperFirst name).length := by
  have htext : name.toList.length ≤ (Text.upperFirst name.toList).length := by
    cases name.toList with
    | nil => exact Nat.le_refl _
    | cons c rest =>
      obtain ⟨first, behind, hc, -⟩ := Text.upperChar_eq_cons c
      simp only [Text.upperFirst, hc, List.cons_append, List.length_cons, List.length_append]
      omega
  rw [upperFirst, String.length_ofList, ← String.length_toList]
  exact htext

/-- A prefix only gives a name back if it is empty and the name is capitalized. -/
theorem upperFirst_eq_of_append {start name : String} (h : start ++ upperFirst name = name) :
    upperFirst name = name := by
  -- the name has no room for a prefix
  have hlength := congrArg String.length h
  rw [String.length_append] at hlength
  have hle := length_le_upperFirst name
  have hstart : start.length = 0 := by omega
  rw [String.length_eq_zero_iff.1 hstart, String.empty_append] at h
  exact h

/-- Without capitalized members a second call changes nothing, unless the first gave a member. -/
theorem avoid_avoid_iff {reserved : List String}
    (hlower : ∀ name ∈ reserved, upperFirst name ≠ name)
    {start name : String} :
    avoid reserved start (avoid reserved start name) = avoid reserved start name ↔
      (start, name) ∉ fusions reserved := by
  rw [← avoid_mem_iff]
  generalize avoid reserved start name = result
  by_cases hmem : result ∈ reserved
  · have hne : start ++ upperFirst result ≠ result :=
      fun heq => hlower result hmem (upperFirst_eq_of_append heq)
    simp [avoid_of_mem hmem, hne, hmem]
  · simp [avoid_of_not_mem hmem, hmem]

/-- On a text, with a text as prefix, the filter is the plain function on names. -/
theorem avoidReserved_string {arguments : Members} {start : String}
    (h : arguments.lookup "prefix" = some (.string start)) (filter : String)
    (reserved : List String) (name : String) :
    avoidReserved filter reserved arguments (.string name) =
      .ok (.string (avoid reserved start name)) := by
  simp only [avoidReserved, h]
  rfl

/-! ### The three vocabularies -/

/-- The filters that keep names apart from a vocabulary, each with its own. -/
def vocabularies : List (String × List String) :=
  [("prefix_font", fontStyles), ("prefix_color", colorNames), ("prefix_image", imageNames)]

/-- The filters with a prefix and a name that together are reserved as well. -/
def compounds : List (String × String × String) :=
  [("prefix_font", "large", "title"), ("prefix_image", "stroked", "checkmark")]

/-- Among font styles, only `large` in front of `title` gives a reserved name again. -/
theorem fusions_fontStyles : fusions fontStyles = [("large", "title")] := by
  decide +kernel

/-- Among colours there is no such pair. -/
theorem fusions_colorNames : fusions colorNames = [] := by
  decide +kernel

/-- Among images, only `stroked` in front of `checkmark`. -/
theorem fusions_imageNames : fusions imageNames = [("stroked", "checkmark")] := by
  decide +kernel

section
variable {filter : String} {reserved : List String} (h : (filter, reserved) ∈ vocabularies)
include h

/-- There are three filters of the kind, each with the names it avoids. -/
theorem vocabulary_cases :
    (filter = "prefix_font" ∧ reserved = fontStyles) ∨
      (filter = "prefix_color" ∧ reserved = colorNames) ∨
      (filter = "prefix_image" ∧ reserved = imageNames) := by
  simpa [vocabularies] using h

/-- All three are found under their names, with any engine: what an engine adds comes behind
them. -/
theorem find_of_vocabulary [Engine] :
    FilterFunction.find filter = .ok (avoidReserved filter reserved) := by
  rcases vocabulary_cases h with ⟨rfl, rfl⟩ | ⟨rfl, rfl⟩ | ⟨rfl, rfl⟩
  all_goals rfl

/-- The fusions of a vocabulary are those that the list of compounds gives for its filter. -/
theorem fusions_iff_compounds {start name : String} :
    (start, name) ∈ fusions reserved ↔ (filter, start, name) ∈ compounds := by
  rcases vocabulary_cases h with ⟨rfl, rfl⟩ | ⟨rfl, rfl⟩ | ⟨rfl, rfl⟩
  · simp [fusions_fontStyles, compounds]
  · simp [fusions_colorNames, compounds]
  · simp [fusions_imageNames, compounds]

/-- No reserved name is capitalized. -/
theorem upperFirst_ne_of_vocabulary : ∀ name ∈ reserved, upperFirst name ≠ name := by
  rcases vocabulary_cases h with ⟨rfl, rfl⟩ | ⟨rfl, rfl⟩ | ⟨rfl, rfl⟩
  all_goals decide +kernel

end

/-- Each of the three filters gives a string for a string and a string prefix. Exactly for the
compounds this string is reserved, and exactly for them a second call with the same prefix changes
it. -/
theorem reserved_avoided [Engine] : ∀ filter reserved, (filter, reserved) ∈ vocabularies →
    ∃ apply, FilterFunction.find filter = .ok apply ∧
      ∀ (arguments : Members) (start name : String),
        arguments.lookup "prefix" = some (.string start) →
        ∃ result, apply arguments (.string name) = .ok (.string result) ∧
          (result ∈ reserved ↔ (filter, start, name) ∈ compounds) ∧
          (apply arguments (.string result) = .ok (.string result) ↔
            (filter, start, name) ∉ compounds) := by
  intro filter reserved h
  refine ⟨_, find_of_vocabulary h, fun arguments start name hprefix => ?_⟩
  have hgives := avoidReserved_string hprefix filter reserved
  refine ⟨avoid reserved start name, hgives name, ?_, ?_⟩
  · rw [avoid_mem_iff, fusions_iff_compounds h]
  · rw [hgives, Except.ok.injEq, Value.string.injEq,
      avoid_avoid_iff (upperFirst_ne_of_vocabulary h), fusions_iff_compounds h]

open scoped Engine in
/-- Under the prefix `token` a reserved name comes out of the vocabulary and stays as it is. -/
theorem reserved_avoided_token :
    ∃ apply, FilterFunction.find "prefix_font" = .ok apply ∧
      ∃ result, apply [("prefix", .string "token")] (.string "title") = .ok (.string result) ∧
        result ∉ fontStyles ∧
        apply [("prefix", .string "token")] (.string result) = .ok (.string result) := by
  obtain ⟨apply, hfind, hall⟩ :=
    reserved_avoided "prefix_font" fontStyles List.mem_cons_self
  obtain ⟨result, hgives, hmem, hagain⟩ := hall [("prefix", .string "token")] "token" "title" rfl
  have hcompound : ("prefix_font", "token", "title") ∉ compounds := by decide
  exact ⟨apply, hfind, result, hgives, fun h => hcompound (hmem.1 h), hagain.2 hcompound⟩

open scoped Engine in
/-- Under the prefix `large` the name `title` stays in the vocabulary, and a second call changes
it. -/
theorem reserved_large_title :
    ∃ apply, FilterFunction.find "prefix_font" = .ok apply ∧
      apply [("prefix", .string "large")] (.string "title") = .ok (.string "largeTitle") ∧
      "largeTitle" ∈ fontStyles ∧
      apply [("prefix", .string "large")] (.string "largeTitle") =
        .ok (.string "largeLargeTitle") := by
  have honce : avoid fontStyles "large" "title" = "largeTitle" := by decide +kernel
  have htwice : avoid fontStyles "large" "largeTitle" = "largeLargeTitle" := by decide +kernel
  refine ⟨avoidReserved "prefix_font" fontStyles, rfl, ?_, by decide, ?_⟩
  · rw [avoidReserved_string rfl, honce]
  · rw [avoidReserved_string rfl, htwice]

end Template.FilterFunction

end DesignTokens

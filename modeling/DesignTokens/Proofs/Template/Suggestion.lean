import DesignTokens.Proofs.Failure.Report
import DesignTokens.Proofs.Stage.Sort
import DesignTokens.Proofs.Template.Bundled
import DesignTokens.Proofs.Template.Faults
import DesignTokens.Proofs.Template.UnknownPath
import DesignTokens.Proofs.Text.EditDistance
import DesignTokens.Template.Source
import Mathlib.Data.List.TakeWhile

/-!
# Suggestions for unknown names

A template that fails at an unknown variable gets the keys of the context that come closest to the
first name of its path. `Suggests` is what a reader may expect of this list: it is short, it goes by
edit distance, it keeps to half the size of the name, and it leaves nothing closer out. The list of
`similarNames` is of this kind for any name and any keys (`suggests_similarNames`).

The first name of a path ends at its first point, so it takes in the brackets behind its first
identifier. This identifier is as far from the name as the brackets are long and is suggested like
any other key, although the template has it right (`Suggests.listsRoot`, `render_inputs_indexed`).
`render_suggests` puts these facts together for every context and every fault of this kind, whatever
template and whatever engine it comes from.
-/

set_option autoImplicit false

namespace DesignTokens.Template

/-! ### The names that come closest -/

section
variable {compared : List Char} {keys similar : List String}

/-- A name may be suggested: it is not the unknown one, and half the size of that one reaches it. -/
def Eligible (compared : List Char) (key : String) : Prop :=
  key.toList ≠ compared ∧ 2 * Text.editDistance compared key.toList ≤ byteSize compared

/-- What is suggested for an unknown name: three keys at most, in the order of their distances, none
of them farther than half the size of the name, and none left out that is closer. The distance is
the least number of edits that lead from the name to the key. -/
structure Suggests (compared : List Char) (keys similar : List String) : Prop where
  length_le : similar.length ≤ 3
  subperm : similar.Subperm keys
  eligible : ∀ key ∈ similar, Eligible compared key
  ascending : similar.Pairwise fun key later =>
    Text.editDistance compared key.toList ≤ Text.editDistance compared later.toList
  closest : ∀ key ∈ keys, Eligible compared key → key ∉ similar →
    similar.length = 3 ∧ ∀ listed ∈ similar,
      Text.editDistance compared listed.toList ≤ Text.editDistance compared key.toList
  distance : ∀ key ∈ keys, IsLeast {n | Text.Edits n compared key.toList}
    (Text.editDistance compared key.toList)

/-- The first items of a list come before all others, which are left out only if there is no room
for them. -/
theorem related_of_not_mem_take {α : Type} {related : α → α → Prop} {items : List α}
    {count : Nat} {item : α} (h : items.Pairwise related) (hitem : item ∈ items)
    (hlater : item ∉ items.take count) :
    (items.take count).length = count ∧ ∀ first ∈ items.take count, related first item := by
  rw [← List.take_append_drop count items] at h hitem
  have hdrop : item ∈ items.drop count := (List.mem_append.1 hitem).resolve_left hlater
  refine ⟨?_, fun first hfirst => (List.pairwise_append.1 h).2.2 first hfirst item hdrop⟩
  have hlength := List.length_pos_of_mem hdrop
  rw [List.length_drop] at hlength
  rw [List.length_take]
  omega

/-- The names with their distances, the closest first, as far as they may be suggested. -/
def closeNames (compared : List Char) (keys : List String) : List (String × Nat) :=
  (Stage.sortBy (fun a b => a.2 < b.2)
    (keys.map fun key => (key, Text.editDistance compared key.toList))).filter
      fun (key, distance) => key.toList ≠ compared && distance ≤ tolerance compared

/-- The names that are suggested are the first three of the close ones. -/
theorem similarNames_eq (compared : List Char) (keys : List String) :
    similarNames compared keys = ((closeNames compared keys).take 3).map (·.1) :=
  rfl

/-- Close names are the eligible ones among the keys, each with its distance. Sorting changes their
order only. -/
theorem mem_closeNames {pair : String × Nat} :
    pair ∈ closeNames compared keys ↔
      pair.1 ∈ keys ∧ Eligible compared pair.1 ∧
        pair.2 = Text.editDistance compared pair.1.toList := by
  have htolerance (distance : Nat) :
      distance ≤ tolerance compared ↔ 2 * distance ≤ byteSize compared := by
    unfold tolerance
    omega
  simp only [closeNames, List.mem_filter, Stage.mem_sortBy, List.mem_map, Bool.and_eq_true,
    decide_eq_true_eq, htolerance, Eligible]
  constructor
  · rintro ⟨⟨key, hkey, rfl⟩, hne, hclose⟩
    exact ⟨hkey, ⟨hne, hclose⟩, rfl⟩
  · rintro ⟨hkey, ⟨hne, hclose⟩, hdistance⟩
    exact ⟨⟨pair.1, hkey, Prod.ext rfl hdistance.symm⟩, hne, hdistance ▸ hclose⟩

/-- They stand in the order of their distances. -/
theorem pairwise_closeNames (compared : List Char) (keys : List String) :
    (closeNames compared keys).Pairwise fun a b => a.2 ≤ b.2 := by
  refine List.Pairwise.filter _ ((Stage.pairwise_sortBy ?_ ?_ _).imp ?_)
  all_goals
    intro a b
    simp only [decide_eq_true_eq, decide_eq_false_iff_not]
    omega

/-- The three that are taken are what the relation calls the suggested names. Sorting makes the
distances ascend, and whatever is left out stands behind the third one. -/
theorem suggests_similarNames (compared : List Char) (keys : List String) :
    Suggests compared keys (similarNames compared keys) := by
  have hmem : ∀ pair ∈ (closeNames compared keys).take 3, pair ∈ closeNames compared keys :=
    fun pair hpair => List.mem_of_mem_take hpair
  rw [similarNames_eq]
  constructor
  case length_le =>
    rw [List.length_map, List.length_take]
    exact Nat.min_le_left _ _
  case subperm =>
    -- sorting keeps the names, and what is close and first is picked from them
    have hsorted := (Stage.sortBy_perm (fun a b => a.2 < b.2)
      (keys.map fun key => (key, Text.editDistance compared key.toList))).map Prod.fst
    have hkeys : (keys.map fun key => (key, Text.editDistance compared key.toList)).map Prod.fst =
        keys := by
      rw [List.map_map]
      exact List.map_id keys
    rw [hkeys] at hsorted
    have hclose := (List.take_sublist 3 (closeNames compared keys)).trans List.filter_sublist
    exact (hclose.map Prod.fst).subperm.trans hsorted.subperm
  case eligible =>
    intro key hkey
    obtain ⟨pair, hpair, rfl⟩ := List.mem_map.1 hkey
    exact (mem_closeNames.1 (hmem pair hpair)).2.1
  case ascending =>
    rw [List.pairwise_map]
    refine ((pairwise_closeNames compared keys).take).imp_of_mem fun ha hb hab => ?_
    rwa [← (mem_closeNames.1 (hmem _ ha)).2.2, ← (mem_closeNames.1 (hmem _ hb)).2.2]
  case closest =>
    intro key hkey heligible hlater
    have hclose : (key, Text.editDistance compared key.toList) ∈ closeNames compared keys :=
      mem_closeNames.2 ⟨hkey, heligible, rfl⟩
    have hlater' :
        (key, Text.editDistance compared key.toList) ∉ (closeNames compared keys).take 3 :=
      fun hmem => hlater (List.mem_map.2 ⟨_, hmem, rfl⟩)
    obtain ⟨hlength, hcloser⟩ :=
      related_of_not_mem_take (pairwise_closeNames compared keys) hclose hlater'
    refine ⟨by rw [List.length_map, hlength], fun listed hlisted => ?_⟩
    obtain ⟨pair, hpair, rfl⟩ := List.mem_map.1 hlisted
    rw [← (mem_closeNames.1 (hmem pair hpair)).2.2]
    exact hcloser pair hpair
  case distance => exact fun key _ => Text.editDistance_isLeast compared key.toList

end

/-! ### The first identifier of a path -/

/-- The first identifier of a path: what comes before its first point or bracket. -/
def rootIdentifier (path : List Char) : List Char :=
  path.takeWhile fun c => c ≠ '.' && c ≠ '['

/-- The brackets directly behind the first identifier of a path. -/
def rootBrackets (path : List Char) : List Char :=
  (rootName path).dropWhile (· ≠ '[')

/-- The first name of a path is its first identifier with the brackets behind it. -/
theorem rootName_eq_append (path : List Char) :
    rootName path = rootIdentifier path ++ rootBrackets path := by
  have hroot : rootIdentifier path = (rootName path).takeWhile (· ≠ '[') := by
    rw [rootIdentifier, rootName, List.takeWhile_takeWhile]
    congr 1
    funext c
    simp [and_comm]
  rw [hroot, rootBrackets, List.takeWhile_append_dropWhile]

/-- When the first identifier of a path is among the suggestions for the path: if it is a key,
brackets stand directly behind it, and these take up no more than half of the name, unless three
keys that are not farther are suggested instead. -/
structure ListsRoot (path : List Char) (keys similar : List String) : Prop where
  only_if : String.ofList (rootIdentifier path) ∈ similar →
    String.ofList (rootIdentifier path) ∈ keys ∧ rootBrackets path ≠ [] ∧
      2 * (rootBrackets path).length ≤ byteSize (rootName path)
  if_close : String.ofList (rootIdentifier path) ∈ keys → rootBrackets path ≠ [] →
    2 * (rootBrackets path).length ≤ byteSize (rootName path) →
      String.ofList (rootIdentifier path) ∈ similar ∨
        similar.length = 3 ∧ ∀ listed ∈ similar,
          Text.editDistance (rootName path) listed.toList ≤ (rootBrackets path).length

/-- The first identifier is as far from the first name as its brackets are long. So it is among the
suggestions exactly if it is a key, there are brackets, they are short enough, and no three others
take the places. -/
theorem Suggests.listsRoot {path : List Char} {keys similar : List String}
    (h : Suggests (rootName path) keys similar) : ListsRoot path keys similar := by
  have hdistance : Text.editDistance (rootName path)
      (String.ofList (rootIdentifier path)).toList = (rootBrackets path).length := by
    rw [String.toList_ofList, rootName_eq_append]
    exact Text.editDistance_append _ _
  have heligible : Eligible (rootName path) (String.ofList (rootIdentifier path)) ↔
      rootBrackets path ≠ [] ∧ 2 * (rootBrackets path).length ≤ byteSize (rootName path) := by
    rw [Eligible, hdistance, String.toList_ofList]
    refine and_congr_left' (not_congr ?_)
    rw [rootName_eq_append, List.self_eq_append_right]
  constructor
  · intro hmem
    exact ⟨h.subperm.subset hmem, heligible.1 (h.eligible _ hmem)⟩
  · intro hkey hbrackets hclose
    rw [or_iff_not_imp_left, ← hdistance]
    exact h.closest _ hkey (heligible.2 ⟨hbrackets, hclose⟩)

/-! ### Messages with suggestions -/

/-- The line of suggestions, if there are any. -/
def didYouMean : List String → String
  | [] => ""
  | similar => "\n  Did you mean: " ++ ", ".intercalate similar ++ "?"

/-- A message without an unknown path stays as it is. -/
theorem withSuggestion_of_none {names : List String} {message : String}
    (h : unknownPath? message.toList = none) : withSuggestion names message = message := by
  rw [withSuggestion, h]

/-- A message that shows an unknown path has the names close to its first part added. -/
theorem withSuggestion_of_some {names : List String} {message : String} {path : List Char}
    (h : unknownPath? message.toList = some path) :
    withSuggestion names message = message ++ didYouMean (similarNames (rootName path) names) := by
  rw [withSuggestion, h]
  dsimp only
  split
  · rename_i hsimilar
    rw [hsimilar, didYouMean, String.append_empty]
  · rename_i hsimilar
    rw [didYouMean]
    · simp only [String.append_assoc]
    · exact hsimilar

/-- Nothing is close to a name without characters. -/
theorem similarNames_nil (keys : List String) : similarNames [] keys = [] := by
  have h := suggests_similarNames [] keys
  rw [List.eq_nil_iff_forall_not_mem]
  intro key hkey
  obtain ⟨hne, hclose⟩ := h.eligible key hkey
  have hzero : Text.editDistance [] key.toList = 0 := by
    have hsize : byteSize [] = 0 := rfl
    omega
  have hedits : Text.Edits 0 [] key.toList :=
    hzero ▸ (h.distance key (h.subperm.subset hkey)).1
  generalize key.toList = target at hedits hne
  cases hedits
  exact hne rfl

/-- A message of an unknown variable mentions its path. -/
theorem mentions_of_missingPath {fault : TemplateFault} {path : String}
    (h : fault.missingPath? = some path) :
    Mentions ["Variable `" ++ String.ofList (TemplateFault.disguise path.toList) ++ "` not found"]
      fault.message := by
  obtain ⟨front, rest, hmessage, -⟩ := TemplateFault.showsMissing_message h
  refine mentions_singleton_iff.2 ⟨String.ofList front, String.ofList rest, ?_⟩
  rw [← String.toList_inj, hmessage]
  simp only [String.toList_append, String.toList_ofList, List.append_assoc]

/-- Whatever template an engine fails to render, the fault decides what is reported, and names stand
in it where it says what was called. -/
theorem render_of_fails [Engine] {text : String} {context : Members} {fault : TemplateFault}
    (hfails : renderText text context = .error fault) (name : String) :
    render name text context = .error (report name context fault) ∧ fault.WellNamed := by
  refine ⟨?_, wellNamed_of_renderText hfails⟩
  rw [render, hfails]
  rfl

/-- If a template fails because a variable is not found, the problem shows the message of the fault
with the keys of the context that come closest to the compared name. Of a legible path this is its
first name, so the first identifier of the path is suggested only if brackets stand behind it. The
fault may come from any engine, behind calls of any filters, tests, functions and snippets. -/
theorem render_suggests {name path : String} {context : Members} {fault : TemplateFault}
    (hmissing : fault.missingPath? = some path) :
    ∃ compared similar,
      report name context fault = .templateRender name (fault.message ++ didYouMean similar) ∧
      Suggests compared (context.map (·.1)) similar ∧
      Mentions ["Variable `" ++ String.ofList (TemplateFault.disguise path.toList) ++ "` not found"]
        fault.message ∧
      (fault.WellNamed → fault.Legible →
        compared = rootName (TemplateFault.disguise path.toList) ∧
          ListsRoot (TemplateFault.disguise path.toList) (context.map (·.1)) similar) ∧
      ∀ (_ : Engine) (text : String), renderText text context = .error fault →
        render name text context =
          .error (.templateRender name (fault.message ++ didYouMean similar)) ∧
        fault.WellNamed := by
  have hmentions := mentions_of_missingPath hmissing
  have hread := TemplateFault.unknownPath?_message hmissing
  have hrender {similar : List String} (hreport : report name context fault =
      .templateRender name (fault.message ++ didYouMean similar)) (_ : Engine) (text : String)
      (hfails : renderText text context = .error fault) := hreport ▸ render_of_fails hfails name
  rcases hfound : unknownPath? fault.message.toList with _ | found
  · -- nothing is read from a message whose paths are not legible, so there is no suggestion
    have hreport : report name context fault =
        .templateRender name (fault.message ++ didYouMean []) := by
      rw [report, withSuggestion_of_none hfound, didYouMean, String.append_empty]
    have hsuggests := suggests_similarNames [] (context.map (·.1))
    rw [similarNames_nil] at hsuggests
    refine ⟨[], [], hreport, hsuggests, hmentions, fun hnamed hlegible => ?_, hrender hreport⟩
    cases hfound.symm.trans (hread hnamed hlegible)
  · have hreport : report name context fault = .templateRender name
        (fault.message ++ didYouMean (similarNames (rootName found) (context.map (·.1)))) := by
      rw [report, withSuggestion_of_some hfound]
    have hsuggests := suggests_similarNames (rootName found) (context.map (·.1))
    refine ⟨_, _, hreport, hsuggests, hmentions, fun hnamed hlegible => ?_, hrender hreport⟩
    cases hfound.symm.trans (hread hnamed hlegible)
    exact ⟨rfl, hsuggests.listsRoot⟩

/-- A template that prints a path fails as the path does. The text is given by what it is read as,
so that fixed templates need not be parsed again. -/
theorem renderText_print [Engine] {text : String} (path : String) {context : Members}
    {fault : TemplateFault}
    (hreads : readsAs text.toList [BundledTemplate.print path []] = true)
    (hfails : Scope.resolve ⟨[], [], context, false⟩ path = .error fault) :
    renderText text context = .error fault := by
  have hparse : Document.parse text = .ok (.ofNodes [BundledTemplate.print path []]) :=
    parse_of_readsAs hreads rfl rfl rfl
  have hvalue (call : SnippetCall) : Expression.value ⟨⟨[], [], context, false⟩, call⟩
      (.mk false (.variable path) []) = .error fault := by
    simp only [Expression.value, Term.value, hfails, fallback?, settle, Term.isVariable]
    rfl
  rw [renderText, hparse]
  change Document.render _ context = _
  simp only [Document.render, Document.ofNodes, renderAll, BundledTemplate.print, Node.render,
    hvalue]
  rfl

open scoped Engine in
/-- A name that lacks a letter. The variable is unknown, and the only key is close enough to be
suggested. -/
theorem render_suggests_inputs :
    renderText "\x7b\x7b input.first \x7d\x7d" [("inputs", .array [])] =
      .error (.unknownVariable "input.first") ∧
    (TemplateFault.unknownVariable "input.first").missingPath? = some "input.first" ∧
    ∃ compared similar,
      render "inline" "\x7b\x7b input.first \x7d\x7d" [("inputs", .array [])] =
        .error (.templateRender "inline"
          ((TemplateFault.unknownVariable "input.first").message ++ didYouMean similar)) ∧
      Suggests compared ["inputs"] similar := by
  have hfails : renderText "\x7b\x7b input.first \x7d\x7d" [("inputs", .array [])] =
      .error (.unknownVariable "input.first") :=
    renderText_print "input.first" (by decide +kernel) rfl
  have hmissing : (TemplateFault.unknownVariable "input.first").missingPath? =
      some "input.first" := rfl
  obtain ⟨compared, similar, -, hsuggests, -, -, hrender⟩ :=
    @render_suggests "inline" _ [("inputs", .array [])] _ hmissing
  exact ⟨hfails, hmissing, compared, similar, (hrender _ _ hfails).1, hsuggests⟩

open scoped Engine in
/-- An index out of bounds: the identifier in front of the brackets is suggested, although the
template uses it as it should. -/
theorem render_inputs_indexed :
    render "inline" "\x7b\x7b inputs[0] \x7d\x7d" [("inputs", .array [])] =
      .error (.templateRender "inline"
        ("Variable `inputs[0]` not found in context : the evaluated version was `inputs.0`. " ++
          "Maybe the index is out of bounds?" ++ "\n  Did you mean: inputs?")) ∧
    rootIdentifier "inputs[0]".toList = "inputs".toList := by
  have hfails : renderText "\x7b\x7b inputs[0] \x7d\x7d" [("inputs", .array [])] =
      .error (.unknownElement "inputs[0]" "inputs.0") :=
    renderText_print "inputs[0]" (by decide +kernel) rfl
  have hheadline : (TemplateFault.unknownElement "inputs[0]" "inputs.0").headline =
      "Variable `inputs[0]` not found in context : the evaluated version was `inputs.0`. " ++
        "Maybe the index is out of bounds?" := by
    decide +kernel
  -- message and path have no quotes, so they are shown as they are
  have hmessage : (TemplateFault.unknownElement "inputs[0]" "inputs.0").message =
      (TemplateFault.unknownElement "inputs[0]" "inputs.0").headline := by
    refine TemplateFault.message_of_not_mem 'V' '?' rfl ?_ (by decide) (by decide) ?_ ?_
    all_goals
      rw [hheadline]
      decide +kernel
  have hdisguise : TemplateFault.disguise "inputs[0]".toList = "inputs[0]".toList :=
    TemplateFault.disguise_of_not_mem (by decide)
  have hlegible : (TemplateFault.unknownElement "inputs[0]" "inputs.0").Legible :=
    ⟨by decide, by rw [hdisguise]; decide⟩
  have hread := TemplateFault.unknownPath?_message rfl
    (show (TemplateFault.unknownElement "inputs[0]" "inputs.0").WellNamed from trivial) hlegible
  have hsimilar : similarNames (rootName "inputs[0]".toList) ["inputs"] = ["inputs"] := by
    decide +kernel
  refine ⟨?_, by decide⟩
  rw [(render_of_fails hfails _).1, report]
  refine congrArg (fun message => Except.error (Problem.templateRender "inline" message)) ?_
  rw [withSuggestion_of_some hread, hmessage, hheadline, hdisguise]
  change _ ++ didYouMean (similarNames (rootName "inputs[0]".toList) ["inputs"]) = _
  rw [hsimilar]
  rfl

end DesignTokens.Template

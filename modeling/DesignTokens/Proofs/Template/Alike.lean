import DesignTokens.Proofs.Result
import DesignTokens.Proofs.Keyed
import DesignTokens.Proofs.Template.Faults
import DesignTokens.Template.Calls
import DesignTokens.Template.Render

/-!
# Two engines

What a template renders to depends on the functions that it calls and on no others. If two engines
are `Alike` for these, with the filters and tests in common, the template renders to the same text
or fails with the same fault under both (`renderText_eq_of_alike`).

The proof has one case for each way to build an expression or a node. Calls of snippets are a
premise there, which is then met by induction on how deep they nest.
-/

set_option autoImplicit false

namespace DesignTokens.Template

/-- Two engines have the same filters and tests, and the functions of some names answer alike. -/
structure Engine.Alike (first second : Engine) (names : List String) : Prop where
  filters : first.filters = second.filters
  tests : first.tests = second.tests
  functions : ∀ name ∈ names, first.functions.lookup name = second.functions.lookup name

/-- Engines that are alike for some functions are alike for fewer. -/
theorem Engine.Alike.mono {first second : Engine} {names fewer : List String}
    (h : first.Alike second names) (hfewer : fewer ⊆ names) : first.Alike second fewer where
  filters := h.filters
  tests := h.tests
  functions name hname := h.functions name (hfewer hname)

section
variable {first second : Engine} {names : List String}

/-! ### Single steps -/

/-- Engines that are alike apply filters alike. -/
theorem Engine.Alike.applyFilter_eq (h : first.Alike second names) (name : String)
    (arguments : List (String × Except TemplateFault Value)) (value : Value) :
    @applyFilter first name arguments value = @applyFilter second name arguments value := by
  simp only [applyFilter, FilterFunction.find, h.filters]

/-- Engines that are alike apply tests alike. -/
theorem Engine.Alike.applyTest_eq (h : first.Alike second names) (scope : Scope)
    (name path : String) (arguments : Except TemplateFault (List Value)) :
    @applyTest first scope name path arguments = @applyTest second scope name path arguments := by
  simp only [applyTest, TestFunction.find, h.tests]

/-- Engines that are alike for a function call it alike. -/
theorem Engine.Alike.callFunction_eq {name : String} (h : first.Alike second names)
    (hname : name ∈ names) (arguments : List (String × Except TemplateFault Value)) :
    @callFunction first name arguments = @callFunction second name arguments := by
  simp only [callFunction, Engine.findFunction, h.functions name hname]

/-! ### Expressions -/

/-- What a term comes to is the same under both engines, whether it is negated or not. -/
structure Term.Agrees (first second : Engine) (around : Surroundings) (term : Term) : Prop where
  value (negated : Bool) :
    @Term.value first around negated term = @Term.value second around negated term
  truth (negated : Bool) :
    @Term.truth first around negated term = @Term.truth second around negated term
  number : @Term.number first around term = @Term.number second around term

variable {around : Surroundings}

mutual

/-- An expression comes to the same under engines that are alike for the functions that it calls. -/
theorem Expression.answers_eq :
    ∀ e : Expression, first.Alike second e.functions →
      @Expression.answers first around e = @Expression.answers second around e
  | .mk negated term filters, h => by
    rw [Expression.functions] at h
    have hterm := Term.agrees term (h.mono (List.subset_append_left _ _))
    have hfilters := h.mono (List.subset_append_right _ _)
    have hfallback := fallback_eq filters hfilters
    have hfiltered := funext (filteredValue_eq filters hfilters)
    simp only [Expression.answers, Expression.value, Expression.truth.eq_def, Expression.number,
      hterm.value, hterm.truth, hterm.number, hfallback, hfiltered]

/-- A term comes to the same under engines that are alike for the functions that it calls. -/
theorem Term.agrees :
    ∀ t : Term, first.Alike second t.functions → t.Agrees first second around
  | .string _, _ | .integer _, _ | .float _, _ | .boolean _, _ | .variable _, _ =>
    ⟨fun _ => by simp only [Term.value], fun _ => by simp only [Term.truth],
      by simp only [Term.number]⟩
  | .arithmetic operator lhs rhs, h => by
    rw [Term.functions] at h
    have hlhs := Expression.number_eq lhs (h.mono (List.subset_append_left _ _))
    have hrhs := Expression.number_eq rhs (h.mono (List.subset_append_right _ _))
    exact ⟨fun _ => by simp only [Term.value, hlhs, hrhs],
      fun _ => by simp only [Term.truth, hlhs, hrhs], by simp only [Term.number, hlhs, hrhs]⟩
  | .relation relation lhs rhs, h => by
    rw [Term.functions] at h
    have hlhs := Expression.answers_eq lhs (h.mono (List.subset_append_left _ _))
    have hrhs := Expression.answers_eq rhs (h.mono (List.subset_append_right _ _))
    -- a relation asks for answers of both sides as a whole
    simp only [Expression.answers] at hlhs hrhs
    exact ⟨fun _ => by simp only [Term.value, hlhs, hrhs],
      fun _ => by simp only [Term.truth, hlhs, hrhs], by simp only [Term.number]⟩
  | .membership differs element container, h => by
    rw [Term.functions] at h
    have helement := Expression.value_eq element (h.mono (List.subset_append_left _ _))
    have hcontainer := Expression.value_eq container (h.mono (List.subset_append_right _ _))
    exact ⟨fun _ => by simp only [Term.value, helement, hcontainer],
      fun _ => by simp only [Term.truth, helement, hcontainer], by simp only [Term.number]⟩
  | .test differs path name arguments, h => by
    rw [Term.functions] at h
    have harguments := valuesOf_eq arguments h
    exact ⟨fun _ => by simp only [Term.value, harguments, h.applyTest_eq],
      fun _ => by simp only [Term.truth, harguments, h.applyTest_eq],
      by simp only [Term.number]⟩
  | .call name arguments, h => by
    rw [Term.functions] at h
    have harguments := namedOf_eq arguments (h.mono (List.subset_cons_self _ _))
    have hcall := h.callFunction_eq List.mem_cons_self
    exact ⟨fun _ => by simp only [Term.value, harguments, hcall],
      fun _ => by simp only [Term.truth, harguments, hcall],
      by simp only [Term.number, harguments, hcall]⟩
  | .snippet space name arguments, h => by
    rw [Term.functions] at h
    have harguments := namedOf_eq arguments h
    exact ⟨fun _ => by simp only [Term.value, harguments],
      fun _ => by simp only [Term.truth, harguments], by simp only [Term.number]⟩
  | .array items, h => by
    rw [Term.functions] at h
    have hitems := valuesOf_eq items h
    exact ⟨fun _ => by simp only [Term.value, hitems], fun _ => by simp only [Term.truth, hitems],
      by simp only [Term.number]⟩
  | .concatenation parts, h => by
    rw [Term.functions] at h
    have hparts := joined_eq parts h
    exact ⟨fun _ => by simp only [Term.value, hparts], fun _ => by simp only [Term.truth, hparts],
      by simp only [Term.number]⟩

/-- The value of an expression is the same for two engines that answer alike on the functions it
calls. -/
theorem Expression.value_eq (e : Expression) (h : first.Alike second e.functions) :
    @Expression.value first around e = @Expression.value second around e :=
  congrFun (congrArg Answers.value (Expression.answers_eq e h)) ()

/-- So is its value as a number. -/
theorem Expression.number_eq (e : Expression) (h : first.Alike second e.functions) :
    @Expression.number first around e = @Expression.number second around e :=
  congrFun (congrArg Answers.number (Expression.answers_eq e h)) ()

/-- The values of a list of expressions agree, one after the other. -/
theorem valuesOf_eq :
    ∀ items : List Expression, first.Alike second (functionsOfAll items) →
      @valuesOf first around items = @valuesOf second around items
  | [], _ => by simp only [valuesOf]
  | item :: items, h => by
    rw [functionsOfAll] at h
    simp only [valuesOf, Expression.value_eq item (h.mono (List.subset_append_left _ _)),
      valuesOf_eq items (h.mono (List.subset_append_right _ _))]

/-- The named arguments of a call agree as well. -/
theorem namedOf_eq :
    ∀ arguments : List (String × Expression), first.Alike second (functionsOfNamed arguments) →
      @namedOf first around arguments = @namedOf second around arguments
  | [], _ => by simp only [namedOf]
  | (name, argument) :: arguments, h => by
    rw [functionsOfNamed] at h
    simp only [namedOf, Expression.value_eq argument (h.mono (List.subset_append_left _ _)),
      namedOf_eq arguments (h.mono (List.subset_append_right _ _))]

/-- So do the parts of a joined text. -/
theorem joined_eq :
    ∀ parts : List Term, first.Alike second (functionsOfParts parts) →
      @joined first around parts = @joined second around parts
  | [], _ => by simp only [joined]
  | .call name arguments :: parts, h => by
    rw [functionsOfParts, Term.functions] at h
    have hpart := h.mono (List.subset_append_left _ _)
    simp only [joined, joined_eq parts (h.mono (List.subset_append_right _ _)),
      namedOf_eq arguments (hpart.mono (List.subset_cons_self _ _)),
      hpart.callFunction_eq List.mem_cons_self]
  | .string _ :: parts, h | .integer _ :: parts, h | .float _ :: parts, h
  | .boolean _ :: parts, h | .variable _ :: parts, h | .arithmetic _ _ _ :: parts, h
  | .relation _ _ _ :: parts, h | .membership _ _ _ :: parts, h | .test _ _ _ _ :: parts, h
  | .snippet _ _ _ :: parts, h | .array _ :: parts, h | .concatenation _ :: parts, h => by
    rw [functionsOfParts] at h
    -- no other part calls a function where its text is taken
    simp only [joined, joined_eq parts (h.mono (List.subset_append_right _ _))]

/-- The fallback that a `default` filter gives is the same. -/
theorem fallback_eq :
    ∀ filters : List Filter, first.Alike second (functionsOfFilters filters) →
      @fallback? first around filters = @fallback? second around filters
  | [], _ => by simp only [fallback?]
  | .mk name arguments :: filters, h => by
    rw [functionsOfFilters] at h
    simp only [fallback?, namedOf_eq arguments (h.mono (List.subset_append_left _ _))]

/-- A chain of filters comes to the same value if it starts with the same one. -/
theorem filteredValue_eq :
    ∀ (filters : List Filter), first.Alike second (functionsOfFilters filters) → ∀ value : Value,
      @filteredValue first around filters value = @filteredValue second around filters value
  | [], _, value => by simp only [filteredValue]
  | .mk name arguments :: filters, h, value => by
    rw [functionsOfFilters] at h
    have hfilters := filteredValue_eq filters (h.mono (List.subset_append_right _ _))
    simp only [filteredValue, namedOf_eq arguments (h.mono (List.subset_append_left _ _)),
      h.applyFilter_eq, hfilters]

end

/-- Two such engines agree on whether an expression holds. -/
theorem Expression.truth_eq (e : Expression) (h : first.Alike second e.functions) :
    @Expression.truth first around e = @Expression.truth second around e :=
  congrFun (congrArg Answers.truth (Expression.answers_eq e h)) ()

end

/-! ### Nodes -/

section
variable {first second : Engine} {call : SnippetCall}

mutual

/-- A node renders alike under engines that are alike for the functions that it calls. -/
theorem Node.render_eq :
    ∀ node : Node, first.Alike second node.functions →
      @Node.render first call node = @Node.render second call node
  | .text _, _ | .snippet _ _ _, _ | .include _ _, _ | .inherited, _ | .breakLoop, _
  | .continueLoop, _ => by
    funext scope
    simp only [Node.render]
  | .output expression, h => by
    rw [Node.functions] at h
    funext scope
    simp only [Node.render, Expression.value_eq expression h]
  | .assign shared name expression, h => by
    rw [Node.functions] at h
    funext scope
    simp only [Node.render, Expression.value_eq expression h]
  | .conditional branches otherwise, h => by
    rw [Node.functions] at h
    funext scope
    simp only [Node.render, renderAll_eq otherwise (h.mono (List.subset_append_right _ _)),
      renderBranches_eq branches (h.mono (List.subset_append_left _ _))]
  | .loop key value container body otherwise, h => by
    rw [Node.functions] at h
    have hbodies := h.mono (List.subset_append_right _ _)
    funext scope
    simp only [Node.render, Expression.value_eq container (h.mono (List.subset_append_left _ _)),
      renderAll_eq body (hbodies.mono (List.subset_append_left _ _)),
      renderAll_eq otherwise (hbodies.mono (List.subset_append_right _ _))]
  | .filtered (.mk name arguments) body, h => by
    rw [Node.functions] at h
    funext scope
    simp only [Node.render, renderAll_eq body (h.mono (List.subset_append_right _ _)),
      filteredText, Filter.arguments, h.applyFilter_eq,
      namedOf_eq arguments (h.mono (List.subset_append_left _ _))]
  | .block _ body, h => by
    rw [Node.functions] at h
    funext scope
    simp only [Node.render, renderAll_eq body h]

/-- Nodes that stand one after the other render to the same text. -/
theorem renderAll_eq :
    ∀ nodes : List Node, first.Alike second (functionsOfNodes nodes) →
      @renderAll first call nodes = @renderAll second call nodes
  | [], _ => by
    funext scope
    simp only [renderAll]
  | node :: rest, h => by
    rw [functionsOfNodes] at h
    funext scope
    simp only [renderAll, Node.render_eq node (h.mono (List.subset_append_left _ _)),
      renderAll_eq rest (h.mono (List.subset_append_right _ _))]

/-- The same branch of a condition is taken, and it renders to the same text. -/
theorem renderBranches_eq :
    ∀ branches : List (Expression × List Node),
      first.Alike second (functionsOfBranches branches) →
        @renderBranches first call branches = @renderBranches second call branches
  | [], _ => by
    funext scope otherwise
    simp only [renderBranches]
  | (condition, body) :: rest, h => by
    rw [functionsOfBranches] at h
    have hbodies := h.mono (List.subset_append_right _ _)
    funext scope otherwise
    simp only [renderBranches,
      Expression.truth_eq condition (h.mono (List.subset_append_left _ _)),
      renderAll_eq body (hbodies.mono (List.subset_append_left _ _)),
      renderBranches_eq rest (hbodies.mono (List.subset_append_right _ _))]

end

/-! ### Templates -/

/-- The functions that the body of a snippet calls are called where the snippet is defined. -/
theorem Document.functions_snippet_subset {document : Document} {entry : String × Snippet}
    (h : entry ∈ document.snippets) :
    functionsOfNodes entry.2.body ⊆ functionsOfNodes document.nodes := by
  obtain ⟨node, hnode, hentry⟩ := List.mem_filterMap.1 h
  have hall (nodes : List Node) (hmem : node ∈ nodes) :
      node.functions ⊆ functionsOfNodes nodes := by
    induction nodes with
    | nil => cases hmem
    | cons first rest ih =>
      rw [functionsOfNodes]
      rcases List.mem_cons.1 hmem with rfl | hmem
      · exact List.subset_append_left _ _
      · exact List.Subset.trans (ih hmem) (List.subset_append_right _ _)
  cases node with
  | snippet name parameters body =>
    cases hentry
    have hsubset := hall _ hnode
    rwa [Node.functions] at hsubset
  | _ => cases hentry

/-- Calls of snippets come to the same. The induction is on how deep calls nest; the body of a
snippet makes calls one deeper. -/
theorem Snippet.callWithin_eq {document : Document}
    (h : first.Alike second (functionsOfNodes document.nodes)) (context : Members) (depth : Nat) :
    @callWithin first document.snippets context depth =
      @callWithin second document.snippets context depth := by
  induction depth with
  | zero => simp only [callWithin]
  | succ depth ih =>
    funext space name given
    simp only [callWithin, ih]
    rcases hlookup : document.snippets.lookup name with _ | snippet
    · rfl
    · have hmem := Keyed.mem_of_lookup hlookup
      simp only [renderAll_eq snippet.body (h.mono (Document.functions_snippet_subset hmem))]

/-- A template renders to the same text, or fails with the same fault, under engines that are alike
for the functions that it calls. -/
theorem renderText_eq_of_alike {text : String} (h : first.Alike second (functionsOf text))
    (context : Members) : @renderText first text context = @renderText second text context := by
  unfold functionsOf at h
  rcases hparse : Document.parse text with fault | document
  · simp only [renderText, hparse, bind, Except.bind]
  · rw [hparse] at h
    simp only [renderText, hparse, bind, Except.bind, Document.render, Snippet.callWithin_eq h,
      renderAll_eq document.nodes h]

end

end DesignTokens.Template

import DesignTokens.Proofs.Result
import DesignTokens.Proofs.Template.Bundled
import DesignTokens.Proofs.Template.Lookup

/-!
# What nodes write

Most templates leave the scope as they found it and call no snippet. For such nodes rendering is a
relation between the scope and a text. `Writes nodes scope pieces` says that the nodes render to
the pieces one after the other, whatever a call of a snippet would do; `Node.Writes` says the same
of one node. There is one lemma for each kind of node, so a template is rendered by applying them
in the order of its nodes.

Texts of expressions come in the same form: `Expression.Means` gives the value of an expression,
and `Scope.holds` says whether a path holds as a condition. A path that leads nowhere does not
hold, and under `orElse` it means the other text (`Scope.valueOr`), so neither can fail.
-/

set_option autoImplicit false

namespace DesignTokens.Template

open BundledTemplate (print orElse whenHolds forEach)

/-! ### Paths in expressions -/

namespace Scope

/-- What was found, or a text in the place of nothing and of null. -/
def orText (other : String) : Option Value → Value
  | none | some .null => .string other
  | some value => value

/-- What a path means, or the other text where it means nothing or null. -/
def valueOr (scope : Scope) (path other : String) : Value :=
  match scope.resolve path with
  | .ok .null => .string other
  | .ok value => value
  | .error _ => .string other

/-- Whether what a path means counts as true. -/
def holds (scope : Scope) (path : String) : Bool :=
  match scope.resolve path with
  | .ok value => value.isTruthy
  | .error _ => false

/-- A path with a default shows its value, or the default if there is none. -/
theorem valueOr_eq {path name : String} {keys : List String} (h : Spells path name keys)
    (scope : Scope) (other : String) :
    scope.valueOr path other = orText other (scope.find? path.toList) := by
  rw [valueOr, resolve_eq h]
  cases scope.find? path.toList with
  | none => rfl
  | some value => cases value <;> rfl

/-- A path holds as a condition if it leads to a truthy value. -/
theorem holds_eq {path name : String} {keys : List String} (h : Spells path name keys)
    (scope : Scope) :
    scope.holds path = (scope.find? path.toList).any Value.isTruthy := by
  rw [holds, resolve_eq h]
  cases scope.find? path.toList <;> rfl

end Scope

/-! ### Loops -/

/-- The text of a loop whose body writes `text` for each item at its index. -/
def loopText {α : Type} (text : Nat → α → String) (items : List α) : String :=
  String.join (items.mapIdx text)

/-- A body that writes a text for each item writes them one after the other. The induction is on
the items that remain, with the index and the text so far general. -/
theorem renderItems_of_writes {body : Scope → Except TemplateFault Rendered}
    {enter : Nat → Option String × Value → Loop} {scope : Scope}
    (text : Nat → Option String × Value → String) (items : List (Option String × Value))
    (index : Nat) (before : String)
    (hbody : ∀ i item, items[i]? = some item →
      body (scope.inside (enter (index + i) item)) =
        .ok (.ofText (scope.inside (enter (index + i) item)) (text (index + i) item))) :
    renderItems body enter index items before scope =
      .ok (.ofText scope
        (before ++ loopText (fun i item => text (index + i) item) items)) := by
  induction items generalizing index before with
  | nil =>
    rw [renderItems]
    simp [loopText]
  | cons item items ih =>
    have hfirst := hbody 0 item rfl
    rw [Nat.add_zero] at hfirst
    have hrest := ih (index + 1) (before ++ text index item) (by
      intro i item' hi
      have h := hbody (i + 1) item' (by simpa using hi)
      rwa [show index + (i + 1) = index + 1 + i by omega] at h)
    -- behind a round its loop is left, which gives the scope in front of it back
    have hleave : ({ scope.inside (enter index item) with
        loops := (scope.inside (enter index item)).loops.tail } : Scope) = scope := rfl
    rw [renderItems]
    simp only [bind, Except.bind, Scope.inside] at hfirst hleave ⊢
    rw [hfirst]
    simp only [Result.mapError_ok, Rendered.ofText, hleave, reduceCtorEq, if_false]
    rw [hrest]
    simp only [loopText, List.mapIdx_cons, String.join_cons, String.append_assoc, Nat.add_zero]
    have hindex : (fun i item => text (index + 1 + i) item) =
        fun i item => text (index + (i + 1)) item := by
      funext i item
      rw [show index + 1 + i = index + (i + 1) by omega]
    rw [hindex]
    rfl

/-! ### Values of expressions -/

variable [Engine]

/-- The expression has a value, whatever snippets do. -/
def Expression.Means (expression : Expression) (scope : Scope) (value : Value) : Prop :=
  ∀ call, expression.value ⟨scope, call⟩ = .ok value

/-- A path without filters means what it leads to. -/
theorem means_path {path : String} {scope : Scope} {value : Value}
    (h : scope.resolve path = .ok value) :
    Expression.Means (.mk false (.variable path) []) scope value := by
  intro call
  simp only [Expression.value, Term.value, fallback?, h, settle, Term.isVariable, filteredValue]
  cases value <;> rfl

/-- A path with a fallback means what `valueOr` says, whether or not it leads anywhere. -/
theorem means_orElse (path other : String) (scope : Scope) :
    Expression.Means (.mk false (.variable path) [orElse other]) scope
      (scope.valueOr path other) := by
  intro call
  have hpassive : isPassive "default" = true := by decide
  have hother :
      ((namedOf ⟨scope, call⟩ [("value", .ofTerm (.string other))]).lookup "value") =
        some (.ok (.string other)) := by
    simp [namedOf, Expression.ofTerm, Expression.value, Term.value, settle, Term.isVariable,
      filteredValue, bind, Except.bind, pure, Except.pure]
  simp only [Expression.value, Term.value, orElse, fallback?, if_true, hother, settle,
    Term.isVariable, filteredValue, hpassive, Scope.valueOr]
  rcases scope.resolve path with fault | value
  · rfl
  · cases value <;> rfl

/-- A path under filters that fit means what they make of it. The first filter is looked up and
applied here, and the others are left to a premise, so that a chain is taken apart one by one. -/
theorem means_filtered {path name : String} {arguments : List (String × Expression)}
    {rest : List Filter} {scope : Scope} {value result : Value} {filter : FilterFunction}
    {given : Members} {after : Value}
    (hresolve : scope.resolve path = .ok value)
    (hname : isPassive name = false)
    (hfind : FilterFunction.find name = .ok filter)
    (hgiven : ∀ call, membersOf (namedOf ⟨scope, call⟩ arguments) = .ok given)
    (hfilter : filter given value = .ok after)
    (hrest : ∀ call, filteredValue ⟨scope, call⟩ rest after = .ok result) :
    Expression.Means (.mk false (.variable path) (.mk name arguments :: rest)) scope result := by
  intro call
  have hdefault : name ≠ "default" := by
    rintro rfl
    cases hname
  have happly :
      applyFilter name (namedOf ⟨scope, call⟩ arguments) value = .ok after := by
    simp only [applyFilter, hfind, hgiven call, bind, Except.bind, hfilter]
    rfl
  have hfiltered :
      filteredValue ⟨scope, call⟩ (.mk name arguments :: rest) value = .ok result := by
    simp only [filteredValue, hname, Bool.false_eq_true, if_false, happly]
    exact hrest call
  simp only [Expression.value, Term.value, fallback?, if_neg hdefault, hresolve, settle,
    Term.isVariable, if_true, hfiltered]
  cases value <;> rfl

/-- A path as a condition never fails. -/
theorem truth_path (path : String) (scope : Scope) (call : SnippetCall) :
    (Expression.ofTerm (.variable path)).truth ⟨scope, call⟩ = .ok (scope.holds path) := by
  simp only [Expression.ofTerm, Expression.truth, Term.value, fallback?, settle, Term.isVariable,
    filteredValue, Scope.holds]
  rcases scope.resolve path with fault | value
  · rfl
  · cases value <;> rfl

/-- Neither does its negation. -/
theorem truth_not_path (path : String) (scope : Scope) (call : SnippetCall) :
    (Expression.mk true (.variable path) []).truth ⟨scope, call⟩ = .ok (!scope.holds path) := by
  simp only [Expression.truth, Term.value, fallback?, settle, Term.isVariable, filteredValue,
    Scope.holds]
  rcases scope.resolve path with fault | value
  · rfl
  · cases value <;> rfl

/-! ### Nodes -/

/-- The node renders to a text and leaves the scope as it is. -/
def Node.Writes (node : Node) (scope : Scope) (text : String) : Prop :=
  ∀ call, node.render call scope = .ok (.ofText scope text)

/-- The nodes render to pieces of text and leave the scope as it is. -/
def Writes (nodes : List Node) (scope : Scope) (pieces : List String) : Prop :=
  ∀ call, renderAll call nodes scope = .ok (.ofText scope (String.join pieces))

/-- No nodes write no text. -/
theorem writes_nil (scope : Scope) : Writes [] scope [] := by
  intro call
  rw [renderAll]
  rfl

/-- Nodes write their texts one after the other. The scope is the same for each, as none of them
assigns. -/
theorem writes_cons {node : Node} {nodes : List Node} {scope : Scope} {text : String}
    {pieces : List String} (hnode : node.Writes scope text) (hnodes : Writes nodes scope pieces) :
    Writes (node :: nodes) scope (text :: pieces) := by
  intro call
  rw [renderAll, hnode call]
  simp only [bind, Except.bind, Rendered.ofText, hnodes call, String.join_cons]
  rfl

/-- Rendering two lists of nodes one after the other: the second starts in the scope that the first
leaves, unless the first leaves the body of a loop. -/
theorem renderAll_append (call : SnippetCall) (nodes more : List Node) (scope : Scope) :
    renderAll call (nodes ++ more) scope = do
      let first ← renderAll call nodes scope
      match first.course with
      | .onward =>
        let later ← renderAll call more first.scope
        return { later with text := first.text ++ later.text }
      | _ => return first := by
  induction nodes generalizing scope with
  | nil =>
    rw [List.nil_append, renderAll]
    simp only [bind, Except.bind, Rendered.ofText]
    cases renderAll call more scope with
    | error fault => rfl
    | ok later => simp [pure, Except.pure]
  | cons node nodes ih =>
    rw [List.cons_append, renderAll, renderAll]
    cases node.render call scope with
    | error fault => rfl
    | ok first =>
      obtain ⟨text, scope', course⟩ := first
      -- only a node that goes on hands its scope to the nodes behind it
      cases course with
      | onward =>
        simp only [bind, Except.bind, ih]
        cases renderAll call nodes scope' with
        | error fault => rfl
        | ok second =>
          obtain ⟨text', scope'', course'⟩ := second
          cases course' with
          | onward =>
            simp only [pure, Except.pure]
            cases renderAll call more scope'' with
            | error fault => rfl
            | ok later => simp [String.append_assoc]
          | nextItem => rfl
          | afterLoop => rfl
      | nextItem => rfl
      | afterLoop => rfl

/-- Two runs of nodes write their texts one after the other. -/
theorem writes_append {nodes more : List Node} {scope : Scope} {pieces later : List String}
    (hnodes : Writes nodes scope pieces) (hmore : Writes more scope later) :
    Writes (nodes ++ more) scope (pieces ++ later) := by
  intro call
  rw [renderAll_append, hnodes call]
  simp only [bind, Except.bind, Rendered.ofText, hmore call, String.join_append]
  rfl

/-- A piece of text is written as it stands. -/
theorem writes_text (content : String) (scope : Scope) :
    (Node.text content).Writes scope content := by
  intro call
  rw [Node.render]

/-- A tag writes the display form of what its expression means. -/
theorem writes_output {expression : Expression} {scope : Scope} {value : Value}
    (h : expression.Means scope value) :
    (Node.output expression).Writes scope (String.ofList value.display) := by
  intro call
  rw [Node.render, h call]
  rfl

/-- A text is displayed as it is. -/
theorem writes_output_text {expression : Expression} {scope : Scope} {text : String}
    (h : expression.Means scope (.string text)) : (Node.output expression).Writes scope text := by
  have hwrites := writes_output h
  rwa [Value.display, String.ofList_toList] at hwrites

/-- A text that a path leads to is written without quotes. -/
theorem writes_print_text {path : String} {scope : Scope} {text : String}
    (h : scope.resolve path = .ok (.string text)) : (print path []).Writes scope text :=
  writes_output_text (means_path h)

/-- A path with a fallback can always be written. -/
theorem writes_orElse (path other : String) (scope : Scope) :
    (print path [orElse other]).Writes scope
      (String.ofList (scope.valueOr path other).display) :=
  writes_output (means_orElse path other scope)

/-- A conditional body is written if its condition holds. -/
theorem writes_conditional {condition : Expression} {body : List Node} {scope : Scope}
    {holds : Bool} {pieces : List String}
    (htruth : ∀ call, condition.truth ⟨scope, call⟩ = .ok holds)
    (hbody : holds = true → Writes body scope pieces) :
    (Node.conditional [(condition, body)] []).Writes scope
      (if holds then String.join pieces else "") := by
  intro call
  rw [Node.render, renderBranches, htruth call]
  cases holds with
  | true => exact hbody rfl call
  | false =>
    simp only [bind, Except.bind, Bool.false_eq_true, if_false]
    rw [renderBranches, renderAll]

/-- A body under a path that holds is written. -/
theorem writes_whenHolds {path : String} {body : List Node} {scope : Scope}
    {pieces : List String} (hholds : scope.holds path = true) (hbody : Writes body scope pieces) :
    (whenHolds path body).Writes scope (String.join pieces) := by
  have h := writes_conditional (truth_path path scope) fun _ => hbody
  rwa [hholds, if_pos rfl] at h

/-- A body under a path that does not hold is left out. -/
theorem writes_whenHolds_not {path : String} {scope : Scope} (body : List Node)
    (hholds : scope.holds path = false) : (whenHolds path body).Writes scope "" := by
  have hbody : scope.holds path = true → Writes body scope [] := by
    intro h
    rw [hholds] at h
    cases h
  have h := writes_conditional (truth_path path scope) hbody
  rwa [hholds, if_neg Bool.false_ne_true] at h

/-- A text that parses to nodes renders to what the nodes write. -/
theorem renderText_of_writes {text : String} {nodes : List Node} {context : Members}
    {pieces : List String} (hparse : Document.parse text = .ok (.ofNodes nodes))
    (hwrites : Writes nodes ⟨[], [], context, false⟩ pieces) :
    renderText text context = .ok (String.join pieces) := by
  have hrender := hwrites
    (Snippet.callWithin (Document.ofNodes nodes).snippets context Snippet.maxDepth)
  simp only [renderText, hparse, bind, Except.bind, Document.render]
  rw [show (Document.ofNodes nodes).nodes = nodes from rfl, hrender]
  rfl

/-- A loop over what a path leads to writes its body for each item. The body may be about the item
and its index; the rounds do not see each other, as nothing is assigned in them. -/
theorem writes_loop {key : Option String} {name path : String} {body : List Node} {scope : Scope}
    {value : Value} {items : List (Option String × Value)}
    (pieces : Nat → Option String × Value → List String)
    (hresolve : scope.resolve path = .ok value)
    (hitems : loopItems key.isSome path value = .ok items)
    (hbody : ∀ i item, items[i]? = some item →
      Writes body (scope.inside (loopAt key name items.length i item)) (pieces i item)) :
    (Node.loop key name (.ofTerm (.variable path)) body []).Writes scope
      (loopText (fun i item => String.join (pieces i item)) items) := by
  intro call
  have hname : containerName (Expression.ofTerm (.variable path)).term = .ok path := rfl
  have hvalue : (Expression.ofTerm (.variable path)).value ⟨scope, call⟩ = .ok value :=
    means_path hresolve call
  rw [Node.render, hname, hvalue]
  simp only [bind, Except.bind, hitems]
  cases items with
  | nil =>
    -- without items the nodes for none are rendered, and there are none
    rw [List.isEmpty_nil, if_pos rfl, renderAll]
    rfl
  | cons item items =>
    rw [List.isEmpty_cons, if_neg Bool.false_ne_true]
    have hitem : ∀ i found, (item :: items)[i]? = some found →
        renderAll call body
            (scope.inside (loopAt key name (item :: items).length (0 + i) found)) =
          .ok (.ofText (scope.inside (loopAt key name (item :: items).length (0 + i) found))
            (String.join (pieces (0 + i) found))) := by
      intro i found hi
      rw [Nat.zero_add]
      exact hbody i found hi call
    simpa using renderItems_of_writes (fun i item => String.join (pieces i item)) _ 0 "" hitem

/-- A loop over an array made of data writes its body for each of them. -/
theorem writes_forEach {α : Type} {name path : String} {body : List Node} {scope : Scope}
    {data : List α} {toValue : α → Value} (pieces : α → List String)
    (hresolve : scope.resolve path = .ok (.array (data.map toValue)))
    (hbody : ∀ i, ∀ item ∈ data,
      Writes body (scope.inside (loopAt none name data.length i (none, toValue item)))
        (pieces item)) :
    (forEach name path body).Writes scope
      (String.join (data.map fun item => String.join (pieces item))) := by
  -- different data may be equal as values, so the pieces go by the index
  have hloop : (forEach name path body).Writes scope
      (loopText (fun i _ => String.join ((data[i]?.map pieces).getD []))
        ((data.map toValue).map fun item => ((none : Option String), item))) := by
    refine writes_loop (fun i _ => (data[i]?.map pieces).getD []) hresolve rfl ?_
    intro i item hi
    simp only [List.map_map, List.getElem?_map, Option.map_eq_some_iff] at hi
    obtain ⟨found, hfound, rfl⟩ := hi
    simp only [hfound, Option.map_some, Option.getD_some, List.length_map]
    exact hbody i found (List.mem_of_getElem? hfound)
  have htexts : loopText (fun i _ => String.join ((data[i]?.map pieces).getD []))
      ((data.map toValue).map fun item => ((none : Option String), item)) =
        String.join (data.map fun item => String.join (pieces item)) := by
    unfold loopText
    congr 1
    apply List.ext_getElem
    · simp
    · intro i hi hj
      simp only [List.length_map] at hj
      simp [List.getElem?_eq_getElem hj]
  rwa [htexts] at hloop

end DesignTokens.Template

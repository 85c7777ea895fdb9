import DesignTokens.Template.Evaluate
import DesignTokens.Template.Parse

/-!
# Rendering templates

Rendering turns the nodes of a template into text and changes what names mean on the way. A loop
gives its names a meaning for each item and forgets what was assigned for the item before. The body
of a snippet knows nothing but its arguments and the context.
-/

set_option autoImplicit false

namespace DesignTokens.Template

variable [Engine]

/-- How rendering goes on after a node. -/
inductive Course where
  /-- With the next node. -/
  | onward
  /-- With the next item of the innermost loop. -/
  | nextItem
  /-- Behind the innermost loop. -/
  | afterLoop
deriving DecidableEq, Repr

/-- What nodes have come to: text, and what names mean behind them. -/
structure Rendered where
  text : String
  scope : Scope
  course : Course

/-- What comes to nothing but text. -/
def Rendered.ofText (scope : Scope) (text : String) : Rendered :=
  ⟨text, scope, .onward⟩

/-! ### Loops -/

/-- How faults call what a loop runs over. -/
def containerName : Term → Except TemplateFault String
  | .variable path => .ok path
  | .call name _ => .ok name
  | .array _ => .ok "an array literal"
  | other => .error (.unsupportedContainer other.describe)

/-- The items of a loop, each with its key in an object. -/
def loopItems (keyed : Bool) (name : String) :
    Value → Except TemplateFault (List (Option String × Value))
  | .array items =>
    if keyed then .error (.superfluousLoopKey name)
    else .ok (items.map fun item => (none, item))
  | .string s =>
    if keyed then .error (.superfluousLoopKey name)
    else .ok (s.toList.map fun c => (none, .string (String.singleton c)))
  | .object members =>
    if keyed then .ok (members.map fun (key, value) => (some key, value))
    else .error (.missingLoopKey name)
  | _ => .error (.notIterable name)

/-- The loop that gives its names the item at an index. -/
def loopAt (keyName : Option String) (valueName : String) (count index : Nat) :
    Option String × Value → Loop
  | (key, value) =>
    { key := keyName.bind fun name => key.map fun key => (name, key)
      valueName, value, index, count
      assigned := [] }

/-- Renders the body of a loop for each of the items that remain, and adds to the text. -/
def renderItems (body : Scope → Except TemplateFault Rendered)
    (enter : Nat → Option String × Value → Loop) :
    (index : Nat) → List (Option String × Value) → (text : String) → Scope →
      Except TemplateFault Rendered
  | _, [], text, scope => .ok (.ofText scope text)
  | index, item :: rest, text, scope => do
    let inside := { scope with loops := enter index item :: scope.loops }
    let rendered ← (body inside).mapError (.place .inLoop)
    let text := text ++ rendered.text
    -- what the item gave names to goes with its loop, what was shared stays
    let scope := { rendered.scope with loops := rendered.scope.loops.tail }
    if rendered.course = .afterLoop then return .ofText scope text
    else renderItems body enter (index + 1) rest text scope

/-- Leaves the body of a loop. -/
def leaveBody (word : String) (course : Course) (scope : Scope) :
    Except TemplateFault Rendered :=
  if scope.loops.isEmpty then .error (.notInLoop word) else .ok ⟨"", scope, course⟩

/-! ### Nodes -/

/-- What a filter makes of a rendered body. -/
def filteredText (around : Surroundings) (filter : Filter) (text : String) :
    Except TemplateFault String :=
  if filter.name = "safe" then .ok text
  else do
    let value ← applyFilter filter.name (namedOf around filter.arguments) (.string text)
    return String.ofList value.display

mutual

/-- Renders a node. -/
def Node.render (call : SnippetCall) : Node → Scope → Except TemplateFault Rendered
  | .text content, scope => .ok (.ofText scope content)
  | .output expression, scope => do
    let value ← expression.value ⟨scope, call⟩
    return .ofText scope (String.ofList value.display)
  | .assign shared name expression, scope => do
    let value ← expression.value ⟨scope, call⟩
    return .ofText (if shared then scope.assignShared name value else scope.assign name value) ""
  | .conditional branches otherwise, scope =>
    renderBranches call branches scope (renderAll call otherwise)
  | .loop key value container body otherwise, scope => do
    let name ← containerName container.term
    let items ← loopItems key.isSome name (← container.value ⟨scope, call⟩)
    if items.isEmpty then renderAll call otherwise scope
    else renderItems (renderAll call body) (loopAt key value items.length) 0 items "" scope
  | .filtered filter body, scope => do
    let rendered ← renderAll call body scope
    let text ← filteredText ⟨rendered.scope, call⟩ filter rendered.text
    return { rendered with text }
  | .block _ body, scope => renderAll call body scope
  | .snippet _ _ _, scope => .ok (.ofText scope "")
  | .include names ignoreMissing, scope =>
    if ignoreMissing then .ok (.ofText scope "") else .error (.missingTemplates names)
  | .inherited, _ => .error .noParentBlock
  | .breakLoop, scope => leaveBody "break" .afterLoop scope
  | .continueLoop, scope => leaveBody "continue" .nextItem scope

/-- Renders nodes up to the first that leaves the body of a loop. -/
def renderAll (call : SnippetCall) : List Node → Scope → Except TemplateFault Rendered
  | [], scope => .ok (.ofText scope "")
  | node :: rest, scope => do
    let first ← node.render call scope
    match first.course with
    | .onward =>
      let later ← renderAll call rest first.scope
      return { later with text := first.text ++ later.text }
    -- the nodes behind it are passed over
    | _ => return first

/-- Renders the body of the first branch whose condition holds, or else `otherwise`. -/
def renderBranches (call : SnippetCall) : List (Expression × List Node) → Scope →
    (otherwise : Scope → Except TemplateFault Rendered) → Except TemplateFault Rendered
  | [], scope, otherwise => otherwise scope
  | (condition, body) :: rest, scope, otherwise => do
    if ← condition.truth ⟨scope, call⟩ then renderAll call body scope
    else renderBranches call rest scope otherwise

end

/-! ### Snippets -/

namespace Snippet

/-- What the parameters of a snippet mean in a call. -/
def argumentsOf (snippet : Snippet) (name : String)
    (given : List (String × Except TemplateFault Value)) : Except TemplateFault Members :=
  snippet.parameters.mapM fun (parameter, byDefault) => do
    match given.lookup parameter, byDefault with
    -- an argument fails only if there is a parameter for it
    | some value, _ => return (parameter, ← value)
    | none, some value => return (parameter, value)
    | none, none => throw (.missingSnippetArgument name parameter)

/-- Calls a snippet of a template; calls inside snippets nest less than `depth` deep. -/
def callWithin (snippets : List (String × Snippet)) (context : Members) :
    (depth : Nat) → SnippetCall
  | 0 => fun _ _ _ => .error .tooDeep
  | depth + 1 => fun space name given => do
    if space ≠ "self" || snippets.isEmpty then throw (.unknownNamespace space)
    match snippets.lookup name with
    | none => throw (.unknownSnippet space name)
    | some snippet =>
      let assigned ← snippet.argumentsOf name given
      -- loops and assignments around the call are out of sight
      let rendered ← (renderAll (callWithin snippets context depth) snippet.body
        ⟨[], assigned, context, true⟩).mapError (.place (.inSnippet space name))
      return rendered.text

/-- How deep calls of snippets may nest. -/
def maxDepth : Nat := 1000

end Snippet

/-! ### Templates -/

/-- Renders a template. -/
def Document.render (document : Document) (context : Members) : Except TemplateFault String := do
  let call := Snippet.callWithin document.snippets context Snippet.maxDepth
  let rendered ← renderAll call document.nodes ⟨[], [], context, false⟩
  return rendered.text

/-- Reads a template and renders it. -/
def renderText (text : String) (context : Members) : Except TemplateFault String := do
  (← Document.parse text).render context

end DesignTokens.Template

import DesignTokens.Template.Expression

/-!
# Templates

A template is a list of nodes: text, outputs of expressions, and constructs with bodies. White space
next to tags has been trimmed already. Snippets are named bodies with parameters that expressions
can call.
-/

set_option autoImplicit false

namespace DesignTokens.Template

/-- A part of a template. -/
inductive Node where
  | text (content : String)
  | output (expression : Expression)
  /-- Gives a name a value, `shared` beyond the loops around. -/
  | assign (shared : Bool) (name : String) (expression : Expression)
  | conditional (branches : List (Expression × List Node)) (otherwise : List Node)
  /-- Runs a body for each item of a container, or for each key and value of an object. -/
  | loop (key : Option String) (value : String) (container : Expression) (body : List Node)
      (otherwise : List Node)
  /-- Passes what a body renders to through a filter. -/
  | filtered (filter : Filter) (body : List Node)
  | block (name : String) (body : List Node)
  /-- A snippet, which renders to nothing where it is defined. -/
  | snippet (name : String) (parameters : List (String × Option Value)) (body : List Node)
  | include (names : List String) (ignoreMissing : Bool)
  /-- The text of a block in a parent template. -/
  | inherited
  | breakLoop
  | continueLoop

/-- A snippet: its parameters with their defaults, and its body. -/
structure Snippet where
  parameters : List (String × Option Value)
  body : List Node

/-- A whole template. -/
structure Document where
  nodes : List Node
  /-- The template that this one extends. -/
  parent : Option String
  /-- The templates whose snippets are used here, each with its namespace. -/
  imports : List (String × String)

namespace Document

/-- The snippets that are defined outside all other constructs. -/
def snippets (document : Document) : List (String × Snippet) :=
  document.nodes.filterMap fun node =>
    match node with
    | .snippet name parameters body => some (name, ⟨parameters, body⟩)
    | _ => none

end Document

mutual

/-- The names of the blocks in a node that are in no construct but other blocks. -/
def Node.blocks : Node → List String
  | .block name body => name :: blocksOf body
  | _ => []

/-- The names of the blocks in a list of nodes. -/
def blocksOf : List Node → List String
  | [] => []
  | node :: rest => node.blocks ++ blocksOf rest

end

end DesignTokens.Template

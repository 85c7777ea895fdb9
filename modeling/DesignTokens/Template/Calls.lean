import DesignTokens.Template.Parse

/-!
# Functions that are called

The names of the functions that a template calls, wherever the calls stand: in outputs and
conditions, in arguments, and in the bodies of loops, blocks and snippets. A call may be passed over
when the template is rendered, and it is listed all the same.
-/

set_option autoImplicit false

namespace DesignTokens.Template

mutual

/-- The functions that a term calls. -/
def Term.functions : Term → List String
  | .string _ | .integer _ | .float _ | .boolean _ | .variable _ => []
  | .arithmetic _ lhs rhs | .relation _ lhs rhs | .membership _ lhs rhs =>
    lhs.functions ++ rhs.functions
  | .test _ _ _ arguments => functionsOfAll arguments
  | .call name arguments => name :: functionsOfNamed arguments
  | .snippet _ _ arguments => functionsOfNamed arguments
  | .array items => functionsOfAll items
  | .concatenation parts => functionsOfParts parts

/-- The functions that an expression calls. -/
def Expression.functions : Expression → List String
  | .mk _ term filters => term.functions ++ functionsOfFilters filters

/-- The functions that expressions call. -/
def functionsOfAll : List Expression → List String
  | [] => []
  | expression :: rest => expression.functions ++ functionsOfAll rest

/-- The functions that named expressions call. -/
def functionsOfNamed : List (String × Expression) → List String
  | [] => []
  | (_, expression) :: rest => expression.functions ++ functionsOfNamed rest

/-- The functions that terms call. -/
def functionsOfParts : List Term → List String
  | [] => []
  | term :: rest => term.functions ++ functionsOfParts rest

/-- The functions that the arguments of filters call. -/
def functionsOfFilters : List Filter → List String
  | [] => []
  | .mk _ arguments :: rest => functionsOfNamed arguments ++ functionsOfFilters rest

end

mutual

/-- The functions that a node calls. -/
def Node.functions : Node → List String
  | .text _ | .include _ _ | .inherited | .breakLoop | .continueLoop => []
  | .output expression | .assign _ _ expression => expression.functions
  | .conditional branches otherwise => functionsOfBranches branches ++ functionsOfNodes otherwise
  | .loop _ _ container body otherwise =>
    container.functions ++ (functionsOfNodes body ++ functionsOfNodes otherwise)
  | .filtered (.mk _ arguments) body => functionsOfNamed arguments ++ functionsOfNodes body
  | .block _ body | .snippet _ _ body => functionsOfNodes body

/-- The functions that nodes call. -/
def functionsOfNodes : List Node → List String
  | [] => []
  | node :: rest => node.functions ++ functionsOfNodes rest

/-- The functions that branches call. -/
def functionsOfBranches : List (Expression × List Node) → List String
  | [] => []
  | (condition, body) :: rest =>
    condition.functions ++ (functionsOfNodes body ++ functionsOfBranches rest)

end

/-- The functions that the text of a template calls. A text that cannot be read calls none. -/
def functionsOf (text : String) : List String :=
  match Document.parse text with
  | .ok document => functionsOfNodes document.nodes
  | .error _ => []

end DesignTokens.Template

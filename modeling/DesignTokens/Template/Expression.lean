import DesignTokens.Text.Spelled
import DesignTokens.Value.Encode

/-!
# Template expressions

An expression is a term, perhaps negated, whose value goes through filters. Terms are literals,
paths into the context, operators and calls. `Expression.describe` spells an expression out with the
names of its parts, for the few faults that show the expression they are about.
-/

set_option autoImplicit false

namespace DesignTokens.Template

/-- An operator on numbers. -/
inductive Arithmetic where
  | plus
  | minus
  | times
  | divide
  | modulo
deriving DecidableEq, Repr

/-- An operator whose result is true or false. -/
inductive Relation where
  | less
  | lessEqual
  | greater
  | greaterEqual
  | equal
  | notEqual
  | both
  | either
deriving DecidableEq, Repr

mutual

/-- A term. -/
inductive Term where
  | string (text : String)
  | integer (i : Int)
  | float (x : Binary64)
  | boolean (b : Bool)
  /-- A path into the context, as it is written. -/
  | variable (path : String)
  | arithmetic (operator : Arithmetic) (lhs rhs : Expression)
  | relation (operator : Relation) (lhs rhs : Expression)
  /-- Whether something is in a container, or is not. -/
  | membership (negated : Bool) (element container : Expression)
  /-- Whether a variable passes a test, or does not. -/
  | test (negated : Bool) (path name : String) (arguments : List Expression)
  | call (name : String) (arguments : List (String × Expression))
  /-- A call of a snippet in a namespace. -/
  | snippet (space name : String) (arguments : List (String × Expression))
  | array (items : List Expression)
  | concatenation (parts : List Term)

/-- A term under filters, and whether the result is negated. -/
inductive Expression where
  | mk (negated : Bool) (term : Term) (filters : List Filter)

/-- A filter with its named arguments. -/
inductive Filter where
  | mk (name : String) (arguments : List (String × Expression))

end

namespace Filter

/-- The name of a filter. -/
def name : Filter → String
  | .mk name _ => name

/-- The named arguments of a filter. -/
def arguments : Filter → List (String × Expression)
  | .mk _ arguments => arguments

end Filter

namespace Expression

/-- The term of an expression. -/
def term : Expression → Term
  | .mk _ term _ => term

/-- Whether an expression is negated. -/
def negated : Expression → Bool
  | .mk negated _ _ => negated

/-- The filters of an expression. -/
def filters : Expression → List Filter
  | .mk _ _ filters => filters

/-- The expression of a term alone. -/
def ofTerm (term : Term) : Expression :=
  .mk false term []

/-- The expression with its negation replaced. -/
def withNegation (negated : Bool) : Expression → Expression
  | .mk _ term filters => .mk negated term filters

end Expression

/-! ### Descriptions -/

/-- The word for an operator on numbers in a description. -/
def Arithmetic.word : Arithmetic → String
  | .plus => "Add"
  | .minus => "Sub"
  | .times => "Mul"
  | .divide => "Div"
  | .modulo => "Modulo"

/-- The word for a relation in a description. -/
def Relation.word : Relation → String
  | .less => "Lt"
  | .lessEqual => "Lte"
  | .greater => "Gt"
  | .greaterEqual => "Gte"
  | .equal => "Eq"
  | .notEqual => "NotEq"
  | .both => "And"
  | .either => "Or"

/-- A text between quotes. -/
def quoted (text : String) : String :=
  String.ofList (Text.spelled text.toList)

/-- The word for a Boolean. -/
def booleanWord (b : Bool) : String :=
  if b then "true" else "false"

/-- A part of a description: a name and the fields between braces. -/
def record (name : String) (fields : List (String × String)) : String :=
  let shown := fields.map fun (key, text) => key ++ ": " ++ text
  name ++ " \x7b " ++ ", ".intercalate shown ++ " \x7d"

mutual

/-- A term spelled out. -/
def Term.describe : Term → String
  | .string text => "String(" ++ quoted text ++ ")"
  | .integer i => "Int(" ++ toString i ++ ")"
  | .float x => "Float(" ++ String.ofList x.spelled ++ ")"
  | .boolean b => "Bool(" ++ booleanWord b ++ ")"
  | .variable path => "Ident(" ++ quoted path ++ ")"
  | .arithmetic operator lhs rhs =>
    "Math(" ++ record "MathExpr"
      [("lhs", lhs.describe), ("rhs", rhs.describe), ("operator", operator.word)] ++ ")"
  | .relation operator lhs rhs =>
    "Logic(" ++ record "LogicExpr"
      [("lhs", lhs.describe), ("rhs", rhs.describe), ("operator", operator.word)] ++ ")"
  | .membership negated element container =>
    "In(" ++ record "In"
      [("lhs", element.describe), ("rhs", container.describe),
        ("negated", booleanWord negated)] ++ ")"
  | .test negated path name arguments =>
    "Test(" ++ record "Test"
      [("ident", quoted path), ("negated", booleanWord negated), ("name", quoted name),
        ("args", "[" ++ ", ".intercalate (describeAll arguments) ++ "]")] ++ ")"
  | .call name arguments =>
    "FunctionCall(" ++ record "FunctionCall"
      [("name", quoted name), ("args", describeArguments arguments)] ++ ")"
  | .snippet space name arguments =>
    "MacroCall(" ++ record "MacroCall"
      [("namespace", quoted space), ("name", quoted name),
        ("args", describeArguments arguments)] ++ ")"
  | .array items => "Array([" ++ ", ".intercalate (describeAll items) ++ "])"
  | .concatenation parts =>
    "StringConcat(" ++ record "StringConcat"
      [("values", "[" ++ ", ".intercalate (describeParts parts) ++ "]")] ++ ")"

/-- An expression spelled out. -/
def Expression.describe : Expression → String
  | .mk negated term filters =>
    record "Expr"
      [("val", term.describe), ("negated", booleanWord negated),
        ("filters", "[" ++ ", ".intercalate (describeFilters filters) ++ "]")]

/-- Arguments spelled out between braces. -/
def describeArguments (arguments : List (String × Expression)) : String :=
  "\x7b" ++ ", ".intercalate (describeNamed arguments) ++ "\x7d"

/-- Named expressions spelled out. -/
def describeNamed : List (String × Expression) → List String
  | [] => []
  | (name, expression) :: rest => (quoted name ++ ": " ++ expression.describe) :: describeNamed rest

/-- Expressions spelled out. -/
def describeAll : List Expression → List String
  | [] => []
  | expression :: rest => expression.describe :: describeAll rest

/-- Terms spelled out. -/
def describeParts : List Term → List String
  | [] => []
  | term :: rest => term.describe :: describeParts rest

/-- Filters spelled out. -/
def describeFilters : List Filter → List String
  | [] => []
  | .mk name arguments :: rest =>
    record "FunctionCall" [("name", quoted name), ("args", describeArguments arguments)] ::
      describeFilters rest

end

/-- How a concatenation is shown: strings and variables, and no details of other parts. -/
def concatenationText (parts : List Term) : String :=
  " ~ ".intercalate (parts.map fun part =>
    match part with
    | .string text => "'" ++ text ++ "'"
    | .variable path => path
    | _ => "unknown")

end DesignTokens.Template

import DesignTokens.Template.Expression
import DesignTokens.Template.Lexical

/-!
# Reading expressions

Expressions nest in brackets and arguments only, so each reader takes the readers of what is nested
inside, and `Grammar.level` ties the knot up to a depth that the length of a text bounds.

Products bind closer than sums and conjunctions closer than disjunctions; all of them group from the
left. At most one comparison stands between two values, and filters bind closer than any operator.
-/

set_option autoImplicit false

namespace DesignTokens.Template

/-- The readers of what may stand inside brackets and arguments. -/
structure Nested where
  /-- A term of numbers. -/
  calculation : Reader Term
  /-- A part of a conjunction or disjunction. -/
  condition : Reader Expression
  /-- A whole expression. -/
  expression : Reader Expression
  /-- An array with filters. -/
  array : Reader Expression

/-- Groups operands from the left, those around a `tight` operator first; `pending` is what stands
before the last loose operator. -/
def group {α β : Type} (tight : α → Bool) (combine : α → β → β → β) (pending : Option (β × α))
    (current : β) : List (α × β) → β
  | [] =>
    match pending with
    | some (lhs, operator) => combine operator lhs current
    | none => current
  | (operator, operand) :: rest =>
    if tight operator then group tight combine pending (combine operator current operand) rest
    else
      let lhs :=
        match pending with
        | some (lhs, before) => combine before lhs current
        | none => current
      group tight combine (some (lhs, operator)) operand rest

namespace Grammar

open Reader

/-- Nothing may be nested, at depths that no text reaches. -/
def nothing : Nested :=
  ⟨failure, failure, failure, failure⟩

/-! ### Calls -/

/-- Reads the items of an array. A comma may follow the last. -/
def arrayItems (inner : Nested) : Reader (List Expression) := do
  sign "["
  let items ← maybe (do
    let items ← separated (spaced inner.condition)
    discard (maybe (sign ","))
    return items)
  sign "]"
  return items.getD []

/-- Reads named arguments. Of two with one name the later counts. -/
def arguments (inner : Nested) : Reader (List (String × Expression)) := do
  let argument : Reader (String × Expression) := do
    let name ← name
    sign "="
    space
    return (name, ← inner.expression <|> inner.array)
  sign "("
  let given ← maybe (do
    let given ← separated argument
    discard (maybe (sign ","))
    return given)
  sign ")"
  return (given.getD []).foldl
    (fun kept (name, value) => kept.filter (·.1 ≠ name) ++ [(name, value)]) []

/-- Reads a filter by its name and, if there are any, its arguments. -/
def filter (inner : Nested) : Reader Filter := do
  let name ← name
  return .mk name ((← maybe (arguments inner)).getD [])

/-- Reads filters. -/
def filters (inner : Nested) : Reader (List Filter) :=
  many (do
    sign "|"
    filter inner)

/-- Reads an array with filters. -/
def array (inner : Nested) : Reader Expression := do
  space
  let items ← arrayItems inner
  return .mk false (.array items) (← filters inner)

/-- Reads a call of a function. -/
def call (inner : Nested) : Reader Term := do
  let name ← name
  return .call name (← arguments inner)

/-- Reads a call of a snippet. -/
def snippet (inner : Nested) : Reader Term := do
  let namespaceName ← name
  sign "::"
  let name ← name
  return .snippet namespaceName name (← arguments inner)

/-- Reads the arguments of a test. -/
def testArguments (inner : Nested) : Reader (List Expression) := do
  sign "("
  let given ← separated (spaced (inner.expression <|> inner.array))
  sign ")"
  return given

/-- Reads a test of a variable. -/
def test (inner : Nested) (negated : Bool) : Reader Term := do
  let path ← path
  sign "is"
  if negated then sign "not"
  let name ← name
  return .test negated path name ((← maybe (testArguments inner)).getD [])

/-! ### Terms -/

/-- Reads a term without operators. -/
def value (inner : Nested) : Reader Term :=
  (Term.boolean <$> boolean) <|> test inner true <|> test inner false <|> snippet inner <|>
    call inner <|> (Term.variable <$> path) <|> (Term.float <$> float) <|>
    (Term.integer <$> integer)

/-- Reads an operator on numbers. -/
def arithmetic : Reader Arithmetic := do
  space
  (do
    exactly "+"
    return .plus) <|>
  (do
    exactly "-"
    return .minus) <|>
  (do
    exactly "*"
    return .times) <|>
  (do
    exactly "/"
    return .divide) <|>
  (do
    exactly "%"
    return .modulo)

/-- Whether an operator binds closer than the sum. -/
def isProduct : Arithmetic → Bool
  | .times | .divide | .modulo => true
  | .plus | .minus => false

/-- Reads a term in brackets or one without operators. -/
def operand (inner : Nested) : Reader Term := do
  space
  (do
    exactly "("
    let term ← spaced inner.calculation
    sign ")"
    return term) <|> value inner

/-- Reads terms with operators between. -/
def calculation (inner : Nested) : Reader Term := do
  let first ← operand inner
  let rest ← many (do
    let operator ← arithmetic
    return (operator, ← operand inner))
  return group isProduct
    (fun operator lhs rhs => .arithmetic operator (.ofTerm lhs) (.ofTerm rhs))
    none first rest

/-- Reads a calculation with filters. -/
def filtered (inner : Nested) : Reader Expression := do
  let term ← calculation inner
  return .mk false term (← filters inner)

/-- Reads a part of a concatenation. -/
def part (inner : Nested) : Reader Term := do
  space
  call inner <|> (Term.float <$> float) <|> (Term.integer <$> integer) <|>
    (Term.string <$> string) <|> (Term.variable <$> path)

/-- Reads a string, or a concatenation, with filters. -/
def text (inner : Nested) : Reader Expression := do
  space
  let concatenation : Reader Term := do
    let first ← part inner
    sign "~"
    let second ← part inner
    let rest ← many (do
      sign "~"
      part inner)
    return .concatenation (first :: second :: rest)
  let term ← concatenation <|> (Term.string <$> string)
  return .mk false term (← filters inner)

/-! ### Conditions -/

/-- Reads an operator that compares. -/
def comparison : Reader Relation := do
  space
  (do
    exactly "=="
    return .equal) <|>
  (do
    exactly "!="
    return .notEqual) <|>
  (do
    exactly ">="
    return .greaterEqual) <|>
  (do
    exactly ">"
    return .greater) <|>
  (do
    exactly "<="
    return .lessEqual) <|>
  (do
    exactly "<"
    return .less)

/-- Reads filtered calculations with operators between. -/
def quantity (inner : Nested) : Reader Expression := do
  let first ← filtered inner
  let rest ← many (do
    let operator ← arithmetic
    return (operator, ← filtered inner))
  return group isProduct (fun operator lhs rhs => .ofTerm (.arithmetic operator lhs rhs))
    none first rest

/-- Reads one side of a comparison. -/
def side (inner : Nested) : Reader Expression :=
  text inner <|> quantity inner

/-- Reads a value, or two with a comparison between. -/
def compared (inner : Nested) : Reader Expression := do
  let lhs ← side inner
  let rest ← maybe (do
    let relation ← comparison
    return (relation, ← side inner))
  match rest with
  | some (relation, rhs) => return .ofTerm (.relation relation lhs rhs)
  | none => return lhs

/-- Reads what asks whether a container holds something. -/
def membership (inner : Nested) : Reader Expression := do
  let element ← text inner <|> filtered inner
  let negated ← isGiven (keyword "not")
  sign "in"
  space
  let container ← text inner <|> array inner <|>
    ((fun path => Expression.ofTerm (.variable path)) <$> path)
  return .ofTerm (.membership negated element container)

/-- Reads a part of a conjunction or disjunction: a comparison that may be negated, or an expression
in brackets. -/
def condition (inner : Nested) : Reader Expression :=
  (do
    let negated ← isGiven (keyword "not")
    return .withNegation negated (← membership inner <|> compared inner)) <|>
  (do
    sign "("
    let expression ← spaced inner.expression
    sign ")"
    return expression.withNegation false)

/-- Reads an operator between conditions. -/
def connective : Reader Relation :=
  (do
    keyword "or"
    return .either) <|>
  (do
    keyword "and"
    return .both)

/-- Reads conditions with operators between. -/
def expression (inner : Nested) : Reader Expression := do
  let first ← condition inner
  let rest ← many (do
    let relation ← connective
    return (relation, ← condition inner))
  return group (fun relation => relation = .both)
    (fun relation lhs rhs => .ofTerm (.relation relation lhs rhs)) none first rest

/-- The readers of what nests at most `depth` deep. -/
def level : (depth : Nat) → Nested
  | 0 => nothing
  | depth + 1 =>
    let inner := level depth
    ⟨calculation inner, condition inner, expression inner, array inner⟩

end Grammar

end DesignTokens.Template

import DesignTokens.Template.Calculate
import DesignTokens.Template.Filters
import DesignTokens.Template.Tests

/-!
# Evaluating expressions

An expression has a value (`Expression.value`), counts as true or false (`Expression.truth`) and may
stand for a number (`Expression.number`). The three differ in what they accept: a condition takes an
unknown variable for false, and a calculation refuses text.

No function is spelled out here. A call of one asks the `Engine`, by the name of the function and
the values of its arguments, and what it answers, a value or a complaint, goes through the rules
for calls: a condition needs a Boolean, a calculation a number, and a concatenation a string or a
number.
-/

set_option autoImplicit false

namespace DesignTokens.Template

variable [Engine]

/-- How snippets are called: by a namespace, a name and what the named arguments come to. -/
abbrev SnippetCall :=
  (space name : String) → List (String × Except TemplateFault Value) → Except TemplateFault String

/-- What expressions are evaluated in. -/
structure Surroundings where
  scope : Scope
  call : SnippetCall

/-! ### Single steps -/

/-- The number that an arithmetic term without a finite result is instead. -/
def numberValue : Option Number → Value
  | some n => .number n
  | none => .string "NaN"

/-- What a path means in a calculation. -/
def variableNumber (path : String) : Value → Except TemplateFault (Option Number)
  | .number n => .ok (some n)
  | _ => .error (.variableNoNumber path)

/-- The text of a variable in a concatenation. -/
def concatenated (path : String) : Value → Except TemplateFault (List Char)
  | .string s => .ok s.toList
  | .number n => .ok n.encode
  | _ => .error (.notConcatenated path)

/-- Whether a container holds an element. -/
def holds (element container : Value) : Except TemplateFault Bool :=
  match container, element with
  | .array items, element => .ok (items.any (·.same element))
  | .string text, .string part => .ok (Text.contains part.toList text.toList)
  | .string _, other => .error (.notInText other.describe)
  | .object members, .string key => .ok (members.lookup key).isSome
  | .object _, other => .error (.notInObject other.describe)
  | _, _ => .error .noContainer

/-- Whether two values are equal; numbers compare by their doubles. A number and something else
cannot be compared. -/
def equal? : Value → Value → Option Bool
  | .number x, .number y => some (x.toDouble.compareValue y.toDouble == .eq)
  | .number _, _ | _, .number _ => none
  | x, y => some (x.same y)

/-- Compares two numbers by their doubles. -/
def compareNumbers (accepts : Ordering → Bool) : Option Number → Option Number →
    Except TemplateFault Bool
  | some x, some y => .ok (accepts (x.toDouble.compareValue y.toDouble))
  | _, _ => .error .notComparable

/-- Which orders of two numbers a relation accepts. -/
def Relation.accepts : Relation → Ordering → Bool
  | .less, order => order.isLT
  | .lessEqual, order => order.isLE
  | .greater, order => order.isGT
  | .greaterEqual, order => order.isGE
  | _, _ => false

/-- What an expression comes to in each of the ways in which it may be asked. -/
structure Answers where
  truth : Unit → Except TemplateFault Bool
  number : Unit → Except TemplateFault (Option Number)
  value : Unit → Except TemplateFault Value

/-- Whether a relation with a negation around it holds. A number is neither equal nor unequal to
something else, whether negated or not. -/
def Relation.decide (relation : Relation) (negated : Bool) (lhs rhs : Answers) :
    Except TemplateFault Bool :=
  match relation with
  | .both => do
    if ← lhs.truth () then return (← rhs.truth ()) != negated else return negated
  | .either => do
    if ← lhs.truth () then return !negated else return (← rhs.truth ()) != negated
  | .equal => do
    return (equal? (← lhs.value ()) (← rhs.value ())).any fun same => same != negated
  | .notEqual => do
    return (equal? (← lhs.value ()) (← rhs.value ())).any fun same => !same != negated
  | order => do
    return (← compareNumbers order.accepts (← lhs.number ()) (← rhs.number ())) != negated

/-- The result of an operator on what expressions stand for, unless one of them is no number. -/
def Arithmetic.calculate (operator : Arithmetic) (lhs rhs : Expression)
    (x y : Except TemplateFault (Option Number)) : Except TemplateFault (Option Number) := do
  match ← x, ← y with
  | some x, some y => operator.apply lhs rhs x y
  | _, _ => return none

/-- Whether a term is a path. -/
def Term.isVariable : Term → Bool
  | .variable _ => true
  | _ => false

/-- The value of an expression from what its parts come to: its term, what the first filter would
put in the place of a variable that is null or unknown, and the effect of all filters. An unknown
variable that is negated is true. -/
def settle (negated : Bool) (term : Term) (found : Except TemplateFault Value)
    (fallback : Option (Except TemplateFault Value))
    (filtered : Value → Except TemplateFault Value) : Except TemplateFault Value :=
  let finish (value : Value) : Except TemplateFault Value := do
    let value ← filtered value
    return if negated then .bool (!value.isTruthy) else value
  -- only variables have a fallback, and only the first filter gives one
  if term.isVariable then
    match found, fallback with
    | .ok .null, some other => other >>= finish
    | .ok value, _ => finish value
    | .error _, some other => other >>= finish
    | .error fault, none => if negated then .ok (.bool true) else .error fault
  else found >>= finish

/-- The number that an expression with filters must come to. -/
def resultNumber : Value → Except TemplateFault (Option Number)
  | .number n => .ok (some n)
  | _ => .error .resultNoNumber

/-- Whether a number is there and not zero. -/
def isNonzero (n : Option Number) : Bool :=
  n.any fun n => !n.toDouble.isZero

/-- The arguments of a call, all of which must have values. -/
def membersOf (arguments : List (String × Except TemplateFault Value)) :
    Except TemplateFault Members :=
  arguments.mapM fun (name, value) => do return (name, ← value)

/-- Applies a filter by its name. Faults of its arguments count as its own. -/
def applyFilter (name : String) (arguments : List (String × Except TemplateFault Value))
    (value : Value) : Except TemplateFault Value := do
  let filter ← FilterFunction.find name
  (do filter (← membersOf arguments) value : Except TemplateFault Value).mapError
    (TemplateFault.causing (.filterFailed name))

/-- Applies a test by its name to what a path means. Faults of its arguments count as its own. -/
def applyTest (scope : Scope) (name path : String) (arguments : Except TemplateFault (List Value)) :
    Except TemplateFault Bool := do
  let test ← TestFunction.find name
  (do test (← arguments) (scope.resolve path).toOption : Except TemplateFault Bool).mapError
    (TemplateFault.causing (.testFailed name))

/-- Calls a function of the engine by its name. Faults of its arguments count as its own. -/
def callFunction (name : String) (arguments : List (String × Except TemplateFault Value)) :
    Except TemplateFault Value := do
  let function ← Engine.findFunction name
  (do function (← membersOf arguments) : Except TemplateFault Value).mapError
    (TemplateFault.causing (.functionFailed name))

/-- What the answer of a function means in a condition. -/
def answeredTruth (name : String) : Value → Except TemplateFault Bool
  | .bool b => .ok b
  | _ => .error (.functionNoBoolean name)

/-- What the answer of a function means in a calculation. -/
def answeredNumber (name : String) : Value → Except TemplateFault (Option Number)
  | .number n => .ok (some n)
  | _ => .error (.functionNoNumber name)

/-- The text of the answer of a function in a concatenation. -/
def answeredText (name : String) : Value → Except TemplateFault (List Char)
  | .string s => .ok s.toList
  | .number n => .ok n.encode
  | _ => .error (.functionNotConcatenated name)

/-- The filters that do nothing to a value where they stand. -/
def isPassive (filter : String) : Bool :=
  filter = "safe" || filter = "default"

/-! ### Expressions -/

mutual

/-- The value of an expression. -/
def Expression.value (around : Surroundings) : Expression → Except TemplateFault Value
  | .mk negated term filters =>
    settle negated term (term.value around negated) (fallback? around filters)
      (filteredValue around filters)

/-- Whether an expression counts as true. -/
def Expression.truth (around : Surroundings) : Expression → Except TemplateFault Bool
  | .mk negated term filters =>
    match term with
    | .variable _ =>
      match settle negated term (term.value around negated) (fallback? around filters)
        (filteredValue around filters) with
      | .ok value => .ok value.isTruthy
      -- whatever goes wrong with a variable, it does not hold
      | .error _ => .ok false
    | .concatenation _ => do
      let value ← settle negated term (term.value around negated) (fallback? around filters)
        (filteredValue around filters)
      return value.isTruthy != negated
    | _ => term.truth around negated

/-- The number that an expression stands for. -/
def Expression.number (around : Surroundings) :
    Expression → Except TemplateFault (Option Number)
  | .mk negated term filters =>
    if filters.isEmpty then term.number around
    else
      settle negated term (term.value around negated) (fallback? around filters)
        (filteredValue around filters) >>= resultNumber

/-- The value of a term. Relations take account of a negation around them themselves. -/
def Term.value (around : Surroundings) (negated : Bool) : Term → Except TemplateFault Value
  | .string text => .ok (.string text)
  | .integer i => .ok (.number (.integer i))
  | .float x => .ok (.number (.float x))
  | .boolean b => .ok (.bool b)
  | .variable path => around.scope.resolve path
  | .arithmetic operator lhs rhs =>
    match operator.calculate lhs rhs (lhs.number around) (rhs.number around) with
    | .ok result => .ok (numberValue result)
    | .error fault => .error (fault.causing .calculationFailed)
  | .relation relation lhs rhs => do
    return .bool (← relation.decide negated
      ⟨fun _ => lhs.truth around, fun _ => lhs.number around, fun _ => lhs.value around⟩
      ⟨fun _ => rhs.truth around, fun _ => rhs.number around, fun _ => rhs.value around⟩)
  | .membership differs element container => do
    return .bool ((← holds (← element.value around) (← container.value around)) != differs)
  | .test differs path name arguments => do
    return .bool ((← applyTest around.scope name path (valuesOf around arguments)) != differs)
  | .call name arguments => callFunction name (namedOf around arguments)
  | .snippet space name arguments => do
    return .string (← around.call space name (namedOf around arguments))
  | .array items => do return .array (← valuesOf around items)
  | .concatenation parts => do return .string (String.ofList (← joined around parts))

/-- Whether a term with a negation around it counts as true. -/
def Term.truth (around : Surroundings) (negated : Bool) : Term → Except TemplateFault Bool
  | .string text => .ok (!text.isEmpty != negated)
  | .integer i => .ok ((i != 0) != negated)
  | .float x => .ok (!x.isZero != negated)
  | .boolean b => .ok (b != negated)
  | .variable path => do return (← around.scope.resolve path).isTruthy != negated
  | .arithmetic operator lhs rhs => do
    return isNonzero (← operator.calculate lhs rhs (lhs.number around) (rhs.number around)) !=
      negated
  | .relation relation lhs rhs =>
    relation.decide negated
      ⟨fun _ => lhs.truth around, fun _ => lhs.number around, fun _ => lhs.value around⟩
      ⟨fun _ => rhs.truth around, fun _ => rhs.number around, fun _ => rhs.value around⟩
  | .membership differs element container => do
    return ((← holds (← element.value around) (← container.value around)) != differs) != negated
  | .test differs path name arguments => do
    return ((← applyTest around.scope name path (valuesOf around arguments)) != differs) != negated
  | .call name arguments => do
    return (← callFunction name (namedOf around arguments) >>= answeredTruth name) != negated
  | .snippet space name arguments => do
    return !(← around.call space name (namedOf around arguments)).isEmpty != negated
  | .array items => do return !(← valuesOf around items).isEmpty != negated
  | .concatenation parts => do return !(← joined around parts).isEmpty != negated

/-- The number that a term stands for. -/
def Term.number (around : Surroundings) : Term → Except TemplateFault (Option Number)
  | .string text => .error (.stringNoNumber text)
  | .integer i => .ok (some (.integer i))
  | .float x => .ok (some (.float x))
  | .boolean b => .error (.booleanNoNumber b)
  | .variable path => around.scope.resolve path >>= variableNumber path
  | .arithmetic operator lhs rhs =>
    operator.calculate lhs rhs (lhs.number around) (rhs.number around)
  | .relation _ _ _ | .membership _ _ _ | .snippet _ _ _ | .array _ => .error .resultNoNumber
  | .test _ _ name _ => .error (.testNoNumber name)
  | .call name arguments => callFunction name (namedOf around arguments) >>= answeredNumber name
  | .concatenation parts => .error (.concatenationNoNumber (concatenationText parts))

/-- The values of expressions. -/
def valuesOf (around : Surroundings) : List Expression → Except TemplateFault (List Value)
  | [] => .ok []
  | expression :: rest => do return (← expression.value around) :: (← valuesOf around rest)

/-- What named expressions come to. -/
def namedOf (around : Surroundings) :
    List (String × Expression) → List (String × Except TemplateFault Value)
  | [] => []
  | (name, expression) :: rest => (name, expression.value around) :: namedOf around rest

/-- The text of a concatenation. Only literals, variables and calls take part. -/
def joined (around : Surroundings) : List Term → Except TemplateFault (List Char)
  | [] => .ok []
  | term :: rest => do
    let text ←
      match term with
      | .string text => pure text.toList
      | .integer i => pure (integerText i)
      | .float x => pure x.plain
      | .variable path => around.scope.resolve path >>= concatenated path
      | .call name arguments => callFunction name (namedOf around arguments) >>= answeredText name
      | _ => pure []
    return text ++ (← joined around rest)

/-- What the first filter puts in the place of a variable that is null or unknown. -/
def fallback? (around : Surroundings) :
    List Filter → Option (Except TemplateFault Value)
  | [] => none
  | .mk name arguments :: _ =>
    if name = "default" then
      some (((namedOf around arguments).lookup "value").getD (.error .missingDefault))
    else none

/-- The effect of filters on a value. -/
def filteredValue (around : Surroundings) : List Filter → Value → Except TemplateFault Value
  | [], value => .ok value
  | .mk name arguments :: rest, value =>
    if isPassive name then filteredValue around rest value
    else do
      filteredValue around rest (← applyFilter name (namedOf around arguments) value)

end

end DesignTokens.Template

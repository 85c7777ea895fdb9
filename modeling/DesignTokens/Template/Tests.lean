import DesignTokens.Template.Display
import DesignTokens.Template.Engine
import DesignTokens.Template.Scope
import DesignTokens.Text.Split

/-!
# Tests

A test asks about a variable, which may mean nothing, with the help of arguments. Spelled out here
are those that the template language comes with, except for `matching`, whose patterns are the
engine's affair.
-/

set_option autoImplicit false

namespace DesignTokens.Template

/-- What a test says about the value of a variable. -/
abbrev TestFunction :=
  (arguments : List Value) → (found : Option Value) → Except TemplateFault Bool

namespace TestFunction

/-- Fails for more arguments than a test takes. -/
def checkCount (name : String) (greatest : Nat) (arguments : List Value) :
    Except TemplateFault Unit :=
  if arguments.length ≤ greatest then .ok ()
  else if greatest = 0 then .error (.testTakesNothing name)
  else .error (.testTakesLess name arguments.length greatest)

/-- The value of a variable that must mean something. -/
def defined (name : String) : Option Value → Except TemplateFault Value
  | some value => .ok value
  | none => .error (.testOfUndefined name)

/-- The text of a value that must be a string. -/
def textOf (name role : String) (value : Option Value) : Except TemplateFault (List Char) :=
  match value.bind Value.string? with
  | some s => .ok s.toList
  | none => .error (.testOfOther name role "string")

/-- The double of a value that must be a number. -/
def numberOf (name role : String) : Option Value → Except TemplateFault Binary64
  | some (.number n) => .ok n.toDouble
  | _ => .error (.testOfOther name role "number")

/-- The test of the kind of a value. -/
def ofKind (name : String) (belongs : Value → Bool) : TestFunction := fun arguments found => do
  checkCount name 0 arguments
  return belongs (← defined name found)

/-- Whether a number is no multiple of two. -/
def isOdd (x : Binary64) : Bool :=
  !(x.rem? ((Binary64.ofInt? 2).getD .zero)).any Binary64.isZero

/-- The test of a number that takes no arguments. -/
def ofNumber (name : String) (holds : Binary64 → Bool) : TestFunction := fun arguments found => do
  checkCount name 0 arguments
  discard (defined name found)
  -- the fault names `odd` for both of these tests
  return holds (← numberOf "odd" "on a variable" found)

/-- Whether a number is a multiple of another. -/
def divisible : TestFunction := fun arguments found => do
  checkCount "divisibleby" 1 arguments
  discard (defined "divisibleby" found)
  let x ← numberOf "divisibleby" "on a variable" found
  let divisor ← numberOf "divisibleby" "with a parameter" arguments.head?
  return (x.rem? divisor).any Binary64.isZero

/-- The test of a text by another. -/
def ofText (name : String) (holds : List Char → List Char → Bool) : TestFunction :=
  fun arguments found => do
    checkCount name 1 arguments
    discard (defined name found)
    let text ← textOf name "on a variable" found
    return holds text (← textOf name "with a parameter" arguments.head?)

/-- Whether a text, an array or an object holds the argument. -/
def containing : TestFunction := fun arguments found => do
  checkCount "containing" 1 arguments
  match ← defined "containing" found with
  | .string s =>
    return Text.contains (← textOf "containing" "with a parameter" arguments.head?) s.toList
  | .array items => return arguments.head?.any fun value => items.any (·.same value)
  | .object members =>
    let key ← textOf "containing" "with a parameter" arguments.head?
    return (members.lookup (String.ofList key)).isSome
  | _ => throw .testOfContainer

/-- Whether a value can be iterated on. -/
def isIterable : Value → Bool
  | .array _ | .object _ => true
  | _ => false

/-- The tests that are spelled out, by their names. A test of another name is found among
`Engine.tests`; the one such test of the template language is `matching`. -/
def table : List (String × TestFunction) :=
  [("defined", fun arguments found => do
      checkCount "defined" 0 arguments
      return found.isSome),
    ("undefined", fun arguments found => do
      checkCount "undefined" 0 arguments
      return found.isNone),
    ("string", ofKind "string" fun value => value.string?.isSome),
    ("number", ofKind "number" fun value =>
      match value with
      | .number _ => true
      | _ => false),
    ("object", ofKind "object" Value.isObject),
    ("iterable", ofKind "iterable" isIterable),
    ("odd", ofNumber "odd" isOdd),
    ("even", ofNumber "even" fun x => !isOdd x),
    ("divisibleby", divisible),
    ("starting_with", ofText "starting_with" fun text start => (Text.dropStart? start text).isSome),
    ("ending_with", ofText "ending_with" fun text ending =>
      (Text.dropStart? ending.reverse text.reverse).isSome),
    ("containing", containing)]

/-- The test of a name: one of the table before one of the engine, which fails in its own words. -/
def find [Engine] (name : String) : Except TemplateFault TestFunction :=
  match table.lookup name, Engine.tests.lookup name with
  | some test, _ => .ok test
  | none, some test => .ok fun arguments found => (test arguments found).mapError .told
  | none, none => .error (.unknownTest name)

end TestFunction

end DesignTokens.Template

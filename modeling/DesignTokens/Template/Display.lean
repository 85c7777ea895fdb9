import DesignTokens.Text.Spelled
import DesignTokens.Value.Encode

/-!
# Text of a value

How a value is written into a template's output, and how it is shown in a fault. Strings stand
without quotes, null is nothing, doubles never have an exponent, and objects are not shown.
-/

set_option autoImplicit false

namespace DesignTokens

namespace Number

/-- The text of a number in a template's output. -/
def display : Number → List Char
  | .integer i => integerText i
  | .float x => x.plain

/-- The nearest double. -/
def toDouble : Number → Binary64
  | .integer i => (Binary64.ofInt? i).getD .zero
  | .float x => x

end Number

namespace Value

mutual

/-- The text of a value in a template's output. -/
def display : Value → List Char
  | .null => []
  | .bool b => encode (.bool b)
  | .number n => n.display
  | .string s => s.toList
  | .array items => '[' :: (displayItems true items ++ [']'])
  | .object _ => ['[', 'o', 'b', 'j', 'e', 'c', 't', ']']

/-- The texts of items; a comma and a space come before all but the first. -/
def displayItems (first : Bool) : List Value → List Char
  | [] => []
  | item :: items =>
    (if first then [] else [',', ' ']) ++ (display item ++ displayItems false items)

end

/-- A value counts as true unless it is null, false, zero or empty. -/
def isTruthy : Value → Bool
  | .null => false
  | .bool b => b
  | .number (.integer i) => i != 0
  | .number (.float x) => !x.isZero
  | .string s => !s.isEmpty
  | .array items => !items.isEmpty
  | .object members => !members.isEmpty

mutual

/-- A value spelled out with the names of its kinds. -/
def describe : Value → String
  | .null => "Null"
  | .bool b => "Bool(" ++ (if b then "true" else "false") ++ ")"
  | .number n => "Number(" ++ String.ofList n.encode ++ ")"
  | .string s => "String(" ++ String.ofList (Text.spelled s.toList) ++ ")"
  | .array items => "Array [" ++ ", ".intercalate (describeItems items) ++ "]"
  | .object members => "Object \x7b" ++ ", ".intercalate (describeMembers members) ++ "\x7d"

/-- The items of an array spelled out. -/
def describeItems : List Value → List String
  | [] => []
  | item :: items => describe item :: describeItems items

/-- The members of an object spelled out. -/
def describeMembers : Members → List String
  | [] => []
  | (key, value) :: rest =>
    (String.ofList (Text.spelled key.toList) ++ ": " ++ describe value) :: describeMembers rest

end

/-- The JSON text of a value as a string. -/
def shown (value : Value) : String :=
  String.ofList value.encode

end Value

end DesignTokens

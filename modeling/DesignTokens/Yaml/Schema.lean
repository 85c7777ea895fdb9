import DesignTokens.Number.Digits
import DesignTokens.Value.Basic
import DesignTokens.Yaml.Fault

/-!
# What scalars stand for

A plain scalar is null, a Boolean, an integer, a double or, if it has none of these forms, a string.
A scalar with a core tag must have the form of its tag. Integers that sixty-four bits cannot hold
are faults up to a hundred and twenty-eight bits and doubles beyond.
-/

set_option autoImplicit false

namespace DesignTokens.Yaml

/-- Whether a text is one of the given words. -/
def isOneOf (words : List String) (text : List Char) : Bool :=
  words.any fun word => decide (word.toList = text)

/-- Whether a text is a word for null. -/
def isNull : List Char → Bool :=
  isOneOf ["null", "Null", "NULL", "~"]

/-- The Boolean that a text writes. -/
def bool? (text : List Char) : Option Bool :=
  if isOneOf ["true", "True", "TRUE"] text then some true
  else if isOneOf ["false", "False", "FALSE"] text then some false
  else none

/-! ### Integers -/

/-- The text without the given sign in front. -/
def dropSign (sign : Char) : List Char → List Char
  | [] => []
  | c :: rest => if c = sign then rest else c :: rest

/-- Whether a text is digits with a zero too many in front, which makes it a string. -/
def hasLeadingZero (text : List Char) : Bool :=
  let digits :=
    match text with
    | [] => []
    | c :: rest => if c = '-' || c = '+' then rest else text
  decide (1 < digits.length) && digits.head? = some '0' && digits.all Char.isDigit

/-- The number that digits write in the radix that the letter behind a zero tells, or in decimal. -/
def magnitude? : List Char → Option Nat
  | '0' :: 'x' :: digits => readDigits? 16 digits
  | '0' :: 'o' :: digits => readDigits? 8 digits
  | '0' :: 'b' :: digits => readDigits? 2 digits
  | digits => readDigits? 10 digits

/-- The integer that a text writes, however large. -/
def integer? (text : List Char) : Option Int :=
  if hasLeadingZero text then none
  else
    match text with
    | '-' :: digits => (magnitude? digits).map fun n => -(n : Int)
    | '+' :: digits => (magnitude? digits).map Int.ofNat
    | digits => (magnitude? digits).map Int.ofNat

/-- The value of an integer, unless it is so large that it is no integer at all. -/
def integerValue? (i : Int) : Option (Except YamlFault Value) :=
  if -Int.pow 2 63 ≤ i ∧ i < Int.pow 2 64 then some (.ok (.number (.integer i)))
  else if -Int.pow 2 127 ≤ i ∧ i < Int.pow 2 128 then some (.error .integerOutOfRange)
  else none

/-! ### Doubles -/

/-- Splits the digits that a text starts with from the rest. -/
def takeDigits (text : List Char) : List Char × List Char :=
  (text.takeWhile Char.isDigit, text.dropWhile Char.isDigit)

/-- The exponent at the end of a text. -/
def exponent? : List Char → Option Int
  | [] => some 0
  | c :: rest =>
    if c = 'e' || c = 'E' then
      match rest with
      | '-' :: digits => (readDigits? 10 digits).map fun n => -(n : Int)
      | '+' :: digits => (readDigits? 10 digits).map Int.ofNat
      | digits => (readDigits? 10 digits).map Int.ofNat
    else none

/-- The double that an unsigned text writes. -/
def unsignedDouble? (negative : Bool) (text : List Char) : Option Binary64 := do
  let (whole, rest) := takeDigits text
  let (fraction, rest) :=
    match rest with
    | '.' :: rest => takeDigits rest
    | rest => ([], rest)
  Binary64.ofDigits? negative whole fraction (← exponent? rest)

/-- The double that a text writes. -/
def double? (text : List Char) : Option Binary64 :=
  match text with
  | '-' :: digits => unsignedDouble? true digits
  | digits => unsignedDouble? false (dropSign '+' digits)

/-- Whether a text is a word for a number that is infinite or none at all. -/
def isUnbounded (text : List Char) : Bool :=
  isOneOf [".inf", ".Inf", ".INF", "+.inf", "+.Inf", "+.INF", "-.inf", "-.Inf", "-.INF", ".nan",
    ".NaN", ".NAN"] text

/-- The value of a text that writes a double. Values hold no unbounded numbers; null stands for
them. -/
def doubleValue? (text : List Char) : Option Value :=
  if isUnbounded text then some .null else (double? text).map fun x => .number (.float x)

/-! ### Scalars -/

/-- The string of a text. -/
def stringValue (text : List Char) : Value :=
  .string (String.ofList text)

/-- The value of a text that writes an integer of some size. -/
def integralValue? (text : List Char) : Option (Except YamlFault Value) :=
  (integer? text).bind integerValue?

/-- What a plain scalar stands for. -/
def plainValue (text : List Char) : Except YamlFault Value :=
  if text.isEmpty || isNull text then .ok .null
  else
    match bool? text with
    | some b => .ok (.bool b)
    | none =>
      match integralValue? text with
      | some result => result
      | none =>
        if hasLeadingZero text then .ok (stringValue text)
        else .ok ((doubleValue? text).getD (stringValue text))

/-- The tag of the schema with a name. -/
def coreTag (name : String) : List Char :=
  ("tag:yaml.org,2002:" ++ name).toList

/-- What a scalar with a full tag stands for. -/
def taggedValue (tag text : List Char) : Except YamlFault Value :=
  let checked (value : Option Value) : Except YamlFault Value :=
    match value with
    | some value => .ok value
    | none => .error .malformedTagged
  if tag.head? = some '!' then .error .unsupportedTag
  else if tag = coreTag "bool" then checked ((bool? text).map .bool)
  else if tag = coreTag "int" then (integralValue? text).getD (.error .malformedTagged)
  else if tag = coreTag "float" then checked (doubleValue? text)
  else if tag = coreTag "null" then checked (if isNull text then some .null else none)
  else .ok (stringValue text)

/-- What a scalar stands for. -/
def scalarValue (text : List Char) (tag : Option (List Char)) (plain : Bool) :
    Except YamlFault Value :=
  match tag with
  | some tag => taggedValue tag text
  | none => if plain then plainValue text else .ok (stringValue text)

end DesignTokens.Yaml

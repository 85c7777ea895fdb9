import DesignTokens.Naming
import DesignTokens.Stage.Sort
import DesignTokens.Template.Display
import DesignTokens.Template.Engine
import DesignTokens.Template.Scope
import DesignTokens.Text.Blank
import DesignTokens.Text.Numeric

/-!
# Filters

A filter turns a value into another, guided by named arguments. Spelled out here are the filters for
generated code, which are `quote`, `escape_leading_digit` and the three that keep names apart from a
vocabulary that a platform reserves, and some of those on text and lists that the template language
comes with. A filter of another name is the engine's.
-/

set_option autoImplicit false

namespace DesignTokens.Template

/-- What a filter does to a value. -/
abbrev FilterFunction := (arguments : Members) → Value → Except TemplateFault Value

namespace FilterFunction

/-- The text of a value that must be a string. -/
def textOf (filter : String) (value : Value) : Except TemplateFault (List Char) :=
  match value.string? with
  | some s => .ok s.toList
  | none => .error (.unsuitableValue filter value.shown "String")

/-- The items of a value that must be an array. -/
def itemsOf (filter : String) (value : Value) : Except TemplateFault (List Value) :=
  match value.items? with
  | some items => .ok items
  | none => .error (.unsuitableValue filter value.shown "Vec<Value>")

/-- The text of an argument that must be there and be a string. -/
def textArgument (filter argument : String) (arguments : Members) :
    Except TemplateFault (List Char) :=
  match arguments.lookup argument with
  | none => .error (.missingArgument filter argument)
  | some (.string s) => .ok s.toList
  | some value => .error (.unsuitableArgument filter argument value.shown "String")

/-- The string of a text. -/
def stringValue (text : List Char) : Value :=
  .string (String.ofList text)

/-- The filter that changes text. -/
def onText (filter : String) (change : List Char → List Char) : FilterFunction := fun _ value => do
  return stringValue (change (← textOf filter value))

/-! ### Text -/

/-- The text with its first character in uppercase and the others in lowercase. -/
def capitalizeText : List Char → List Char
  | [] => []
  | c :: rest => Text.upperChar c ++ Text.lower rest

/-- Replaces a text by another wherever it occurs. -/
def replace : FilterFunction := fun arguments value => do
  let text ← textOf "replace" value
  let old ← textArgument "replace" "from" arguments
  let new ← textArgument "replace" "to" arguments
  return stringValue (Text.replace old new text)

/-- The JSON text of a value, on one line or, with `pretty`, on many. -/
def jsonEncode : FilterFunction := fun arguments value =>
  let pretty := ((arguments.lookup "pretty").bind Value.bool?).getD false
  .ok (stringValue (if pretty then value.encodeIndented else value.encode))

/-! ### Lists -/

/-- The number of characters, items or members. -/
def length : FilterFunction := fun _ value =>
  let count (n : Nat) : Except TemplateFault Value := .ok (.number (.integer n))
  match value with
  | .string s => count s.toList.length
  | .array items => count items.length
  | .object members => count members.length
  | _ => .error .noLength

/-- The first item, or an empty string. -/
def first : FilterFunction := fun _ value => do
  return (← itemsOf "first" value).head?.getD (.string "")

/-- The last item, or an empty string. -/
def last : FilterFunction := fun _ value => do
  return (← itemsOf "last" value).getLast?.getD (.string "")

/-- A separator in which a backslash before `n` or `t` stands for a line feed or a tab. -/
def separatorText (text : List Char) : List Char :=
  Text.replace ['\\', 't'] ['\t'] (Text.replace ['\\', 'n'] ['\n'] text)

/-- The texts of the items with a separator between. -/
def join : FilterFunction := fun arguments value => do
  let items ← itemsOf "join" value
  let separator ←
    match arguments.lookup "sep" with
    | none => pure []
    | some (.string s) => pure (separatorText s.toList)
    -- the fault names another filter
    | some other => throw (.unsuitableArgument "truncate" "sep" other.shown "String")
  return stringValue (Text.join separator (items.map Value.display))

/-- What items are sorted by. All items of a list need the same kind. -/
inductive Rank where
  | number (x : Binary64)
  | text (s : String)
  | truth (b : Bool)
  | length (n : Nat)

/-- Whether one rank comes before another. -/
def Rank.less : Rank → Rank → Bool
  | .number x, .number y => x.compareValue y == .lt
  | .text s, .text t => decide (s < t)
  | .truth b, .truth c => !b && c
  | .length m, .length n => decide (m < n)
  | _, _ => false

/-- The rank of a key in a list whose first key is `model`. -/
def rank (model key : Value) : Except TemplateFault Rank :=
  match model with
  | .null => .error (.notSortable "Null")
  | .object _ => .error (.notSortable "Object")
  | .bool _ =>
    match key with
    | .bool b => .ok (.truth b)
    | other => .error (.mixedSort "bool" other.shown)
  | .number _ =>
    match key with
    | .number n => .ok (.number n.toDouble)
    | other => .error (.mixedSort "number" other.shown)
  | .string _ =>
    match key with
    | .string s => .ok (.text s)
    | other => .error (.mixedSort "string" other.shown)
  | .array _ =>
    match key with
    | .array items => .ok (.length items.length)
    | other => .error (.mixedSort "array" other.shown)

/-- What an item is sorted by: itself, or what a field leads to. -/
def sortKey (field : List Char) (item : Value) : Except TemplateFault Value :=
  if field.isEmpty then .ok item
  else
    match Value.follow? item field with
    | some key => .ok key
    | none => .error (.noAttribute (String.ofList field))

/-- The items in ascending order. Items of one rank keep their order. -/
def sort : FilterFunction := fun arguments value => do
  let items ← itemsOf "sort" value
  match items with
  | [] => return .array []
  | head :: _ =>
    let field ←
      match arguments.lookup "attribute" with
      | none => pure []
      | some _ => textArgument "sort" "attribute" arguments
    -- the first item decides which kind the others need
    let model ← sortKey field head
    let ranked ← items.mapM fun item => do
      return (← rank model (← sortKey field item), item)
    return .array ((Stage.sortBy (fun a b => a.1.less b.1) ranked).map (·.2))

/-! ### Generated code -/

/-- Puts strings between quotes; nothing inside is escaped. Other values stay as they are. -/
def quote : FilterFunction := fun _ value =>
  match value with
  | .string s => .ok (.string ("\"" ++ s ++ "\""))
  | other => .ok other

/-- Puts an underscore before strings that start with a numeric character. -/
def escapeLeadingDigit : FilterFunction := fun _ value =>
  match value with
  | .string s => .ok (.string (if s.toList.head?.any Text.isNumeric then "_" ++ s else s))
  | other => .ok other

/-- The names of text styles. -/
def fontStyles : List String :=
  ["largeTitle", "title", "title2", "title3", "headline", "subheadline", "body", "callout",
    "footnote", "caption", "caption2"]

/-- The names of colours. -/
def colorNames : List String :=
  ["black", "blue", "brown", "clear", "cyan", "gray", "green", "indigo", "mint", "orange", "pink",
    "purple", "red", "teal", "white", "yellow", "accentColor", "primary", "secondary",
    "description"]

/-- The names of images. -/
def imageNames : List String :=
  ["checkmark", "add", "remove", "strokedCheckmark"]

/-- Puts the argument `prefix` before the capitalized string, if the string is a reserved name. -/
def avoidReserved (filter : String) (reserved : List String) : FilterFunction :=
  fun arguments value =>
    -- the argument is needed for values that are no strings as well
    match (arguments.lookup "prefix").bind Value.string? with
    | none => .error (.noStringPrefix filter)
    | some start =>
      match value with
      | .string s => .ok (.string (if reserved.contains s then start ++ upperFirst s else s))
      | other => .ok other

/-! ### The table -/

/-- The filters that are spelled out, by their names. The five for generated code are complete; of
those that the template language comes with, the others are found among `Engine.filters`. -/
def table : List (String × FilterFunction) :=
  [("upper", onText "upper" Text.upper),
    ("lower", onText "lower" Text.lower),
    ("trim", onText "trim" Text.trim),
    ("capitalize", onText "capitalize" capitalizeText),
    ("replace", replace),
    ("json_encode", jsonEncode),
    ("length", length),
    ("first", first),
    ("last", last),
    ("join", join),
    ("sort", sort),
    ("quote", quote),
    ("escape_leading_digit", escapeLeadingDigit),
    ("prefix_font", avoidReserved "prefix_font" fontStyles),
    ("prefix_color", avoidReserved "prefix_color" colorNames),
    ("prefix_image", avoidReserved "prefix_image" imageNames)]

/-- The filter of a name: one of the table before one of the engine, which fails in its own
words. -/
def find [Engine] (name : String) : Except TemplateFault FilterFunction :=
  match table.lookup name, Engine.filters.lookup name with
  | some filter, _ => .ok filter
  | none, some filter => .ok fun arguments value => (filter arguments value).mapError .told
  | none, none => .error (.unknownFilter name)

end FilterFunction

end DesignTokens.Template

import DesignTokens.Text.Blank
import DesignTokens.Text.Split
import DesignTokens.Value.Encode

/-!
# Faults of templates

A `TemplateFault` is the reason why a template cannot be read or rendered. Its messages go from the
outermost to the innermost cause. A part of the engine that is not spelled out here fails with a
`Complaint`, whose words are taken as they are. The name by which the engine calls the template is
its own affair, so what a message says with it between quotes is put in other words.
-/

set_option autoImplicit false

namespace DesignTokens

/-- How a part of the engine says why it failed: a message, and those of the causes behind it. -/
structure Complaint where
  message : String
  causes : List String
deriving DecidableEq, Repr

/-- Why a template cannot be read or rendered. -/
inductive TemplateFault where
  /-- The text stops following the grammar at a place, given by line and column. -/
  | malformed (line column : Nat)
  | integerOutOfRange (i : Int)
  | repeatedBlock (name : String)
  | repeatedSnippet (name : String)
  | missingParent (name : String)
  | missingImport (name : String)
  | contextNotObject
  | unknownVariable (path : String)
  /-- A path with brackets was looked up in the form `evaluated`. -/
  | unknownElement (path evaluated : String)
  | unknownIndex (path : String) (cause : TemplateFault)
  | unusableIndex (index path : String)
  | missingDefault
  | unknownFilter (name : String)
  | unknownFunction (name : String)
  | unknownTest (name : String)
  | filterFailed (name : String) (cause : TemplateFault)
  | testFailed (name : String) (cause : TemplateFault)
  | functionFailed (name : String) (cause : TemplateFault)
  /-- A filter, test or function of the engine failed in its own words. -/
  | told (complaint : Complaint)
  | unsuitableValue (filter shown expected : String)
  | unsuitableArgument (filter argument shown expected : String)
  | missingArgument (filter argument : String)
  | noStringPrefix (filter : String)
  | noLength
  | notSortable (kind : String)
  | mixedSort (expected shown : String)
  | noAttribute (name : String)
  | testTakesNothing (name : String)
  | testTakesLess (name : String) (given greatest : Nat)
  | testOfUndefined (name : String)
  | testOfOther (name role kind : String)
  | testOfContainer
  | notConcatenated (path : String)
  | functionNotConcatenated (name : String)
  | functionNoBoolean (name : String)
  | functionNoNumber (name : String)
  | variableNoNumber (path : String)
  | stringNoNumber (text : String)
  | booleanNoNumber (b : Bool)
  | concatenationNoNumber (text : String)
  | testNoNumber (name : String)
  | resultNoNumber
  | outOfRange (lhs : Int) (sign : String) (rhs : Int) (signed : Bool)
  | moduloByZero (lhs rhs : String)
  | notComparable
  | notInText (shown : String)
  | notInObject (shown : String)
  | noContainer
  | notIterable (container : String)
  | missingLoopKey (container : String)
  | superfluousLoopKey (container : String)
  | unsupportedContainer (shown : String)
  | missingTemplates (names : List String)
  | noParentBlock
  | unknownNamespace (space : String)
  | unknownSnippet (space name : String)
  | missingSnippetArgument (name argument : String)
  | tooDeep
  | notInLoop (word : String)
  /-- A fault of a calculation, which is told without its causes. -/
  | calculationFailed (cause : TemplateFault)
  /-- The cause lies in the body of a snippet, outside its loops. -/
  | inSnippet (space name : String) (cause : TemplateFault)
  /-- The cause lies in the body of a loop. -/
  | inLoop (cause : TemplateFault)
deriving DecidableEq, Repr

namespace TemplateFault

/-- The name by which messages mention the template that is being rendered. -/
def templateName : String := "__tera_one_off"

/-- The message of a fault without its causes. -/
def headline : TemplateFault → String
  | .malformed line column =>
    "--> " ++ toString line ++ ":" ++ toString column ++ " unexpected text"
  | .integerOutOfRange i => "Integer out of bounds: `" ++ toString i ++ "`"
  | .repeatedBlock name => "Block `" ++ name ++ "` is duplicated"
  | .repeatedSnippet name => "Macro `" ++ name ++ "` is duplicated"
  | .missingParent name =>
    "Template template is inheriting from '" ++ name ++ "', which doesn't exist or isn't loaded."
  | .missingImport name =>
    "Template `" ++ templateName ++ "` loads macros from `" ++ name ++
      "` which isn't present in Tera"
  | .contextNotObject =>
    "Creating a Context from a Value/Serialize requires it being a JSON object"
  | .unknownVariable path => "Variable `" ++ path ++ "` not found in context"
  | .unknownElement path evaluated =>
    "Variable `" ++ path ++ "` not found in context : the evaluated version was `" ++ evaluated ++
      "`. Maybe the index is out of bounds?"
  | .unknownIndex path cause =>
    "Variable " ++ path ++ " can not be evaluated because: " ++ cause.headline
  | .unusableIndex index path =>
    "Only variables evaluating to String or Number can be used as index (`" ++ index ++ "` of `" ++
      path ++ "`)"
  | .missingDefault => "The `default` filter requires a `value` argument."
  | .unknownFilter name => "Filter '" ++ name ++ "' not found"
  | .unknownFunction name => "Function '" ++ name ++ "' not found"
  | .unknownTest name => "Test '" ++ name ++ "' not found"
  | .filterFailed name _ => "Filter call '" ++ name ++ "' failed"
  | .testFailed name _ => "Test call '" ++ name ++ "' failed"
  | .functionFailed name _ => "Function call '" ++ name ++ "' failed"
  | .told complaint => complaint.message
  | .unsuitableValue filter shown expected =>
    "Filter `" ++ filter ++ "` was called on an incorrect value: got `" ++ shown ++
      "` but expected a " ++ expected
  | .unsuitableArgument filter argument shown expected =>
    "Filter `" ++ filter ++ "` received an incorrect type for arg `" ++ argument ++ "`: got `" ++
      shown ++ "` but expected a " ++ expected
  | .missingArgument filter argument =>
    "Filter `" ++ filter ++ "` expected an arg called `" ++ argument ++ "`"
  | .noStringPrefix filter => filter ++ " filter requires a string `prefix` argument"
  | .noLength =>
    "Filter `length` was used on a value that isn't an array, an object, or a string."
  | .notSortable kind => kind ++ " is not a sortable value"
  | .mixedSort expected shown => "expected " ++ expected ++ " got " ++ shown
  | .noAttribute name => "attribute '" ++ name ++ "' does not reference a field"
  | .testTakesNothing name =>
    "Tester `" ++ name ++ "` was called with some args but this test doesn't take args"
  | .testTakesLess name given greatest =>
    "Tester `" ++ name ++ "` was called with " ++ toString given ++ " args, the max number is " ++
      toString greatest
  | .testOfUndefined name => "Tester `" ++ name ++ "` was called on an undefined variable"
  | .testOfOther name role kind =>
    "Tester `" ++ name ++ "` was called " ++ role ++ " that isn't a " ++ kind
  | .testOfContainer => "Tester `containing` can only be used on string, array or map"
  | .notConcatenated path =>
    "Tried to concat a value that is not a string or a number from ident " ++ path
  | .functionNotConcatenated name =>
    "Tried to concat a value that is not a string or a number from function call " ++ name
  | .functionNoBoolean name =>
    "Function `" ++ name ++ "` was used in a logic operation but is not returning a bool"
  | .functionNoNumber name =>
    "Function `" ++ name ++ "` was used in a math operation but is not returning a number"
  | .variableNoNumber path =>
    "Variable `" ++ path ++ "` was used in a math operation but is not a number"
  | .stringNoNumber text => "Tried to do math with a string: `" ++ text ++ "`"
  | .booleanNoNumber b =>
    "Tried to do math with a boolean: `" ++ (if b then "true" else "false") ++ "`"
  | .concatenationNoNumber text => "Tried to do math with a string concatenation: " ++ text
  | .testNoNumber name => "Tried to do math with a test: " ++ name
  | .resultNoNumber => "Tried to do math with an expression not resulting in a number"
  | .outOfRange lhs sign rhs signed =>
    toString lhs ++ " " ++ sign ++ " " ++ toString rhs ++ " results in an out of bounds " ++
      (if signed then "i64" else "u64")
  | .moduloByZero lhs rhs => "Tried to do a modulo by zero: " ++ lhs ++ "/" ++ rhs
  | .notComparable => "Comparison to NaN"
  | .notInText shown =>
    "Tried to check if " ++ shown ++ " is in a string, but it isn't a string"
  | .notInObject shown =>
    "Tried to check if " ++ shown ++ " is in a object, but it isn't a string"
  | .noContainer => "The `in` operator only supports strings, arrays and objects."
  | .notIterable container =>
    "Tried to iterate on a container (`" ++ container ++ "`) that has a unsupported type"
  | .missingLoopKey container =>
    "Tried to iterate using key value on variable `" ++ container ++ "`, but it is missing a key"
  | .superfluousLoopKey container =>
    "Tried to iterate using key value on variable `" ++ container ++
      "`, but it isn't an object/map"
  | .unsupportedContainer shown =>
    "Forloop containers have to be an ident or a function call (tried to iterate on '" ++ shown ++
      "')"
  | .missingTemplates names => "Template '[" ++ ", ".intercalate names ++ "]' not found"
  | .noParentBlock => "Tried to use super() in the top level block"
  | .unknownNamespace space =>
    "Macro namespace `" ++ space ++ "` was not found in template `" ++ templateName ++
      "`. Have you maybe forgotten to import it, or misspelled it?"
  | .unknownSnippet space name =>
    "Macro `" ++ space ++ "::" ++ name ++ "` not found in template `" ++ templateName ++ "`"
  | .missingSnippetArgument name argument =>
    "Macro `" ++ name ++ "` is missing the argument `" ++ argument ++ "`"
  | .tooDeep => "Macros call each other without end"
  | .notInLoop word => "Attempted `" ++ word ++ "` while not in `for loop`"
  | .calculationFailed cause => cause.headline
  | .inSnippet space name _ =>
    "Template rendering failed: error while rendering macro `" ++ space ++ "::" ++ name ++ "`"
  | .inLoop cause => cause.headline

/-- The messages of a fault and its causes. -/
def messages : TemplateFault → List String
  | .filterFailed name cause => (filterFailed name cause).headline :: cause.messages
  | .testFailed name cause => (testFailed name cause).headline :: cause.messages
  | .functionFailed name cause => (functionFailed name cause).headline :: cause.messages
  | .told complaint => complaint.message :: complaint.causes
  | .inSnippet space name cause => (inSnippet space name cause).headline :: cause.messages
  | .inLoop cause => cause.messages
  | fault => [fault.headline]

/-- The texts that give the name of the template away, with the words that stand instead. -/
def disguises : List (List Char × List Char) :=
  [(("while rendering '" ++ templateName ++ "'").toList, []),
    (("Failed to render '" ++ templateName ++ "'").toList, "Template rendering failed".toList),
    (("Failed to parse '" ++ templateName ++ "'").toList, "Template syntax error".toList),
    (("'" ++ templateName ++ "'").toList, "template".toList)]

/-- A text without the name of the template. -/
def disguise (text : List Char) : List Char :=
  Text.replaceAll disguises text

/-- A message as it is shown. -/
def presented (message : String) : String :=
  String.ofList (Text.trim (disguise message.toList))

/-- The whole message of a fault. -/
def message (fault : TemplateFault) : String :=
  "\n  -> ".intercalate (fault.messages.map presented)

/-! ### Places -/

/-- Whether it is known in which body a fault lies. -/
def isPlaced : TemplateFault → Bool
  | .inSnippet _ _ _ | .inLoop _ => true
  | _ => false

/-- Says in which body a fault lies, unless a body further inside is known. -/
def place (body : TemplateFault → TemplateFault) (fault : TemplateFault) : TemplateFault :=
  if fault.isPlaced then fault else body fault

/-- Makes a fault the cause of another, which then lies in the same body. -/
def causing (effect : TemplateFault → TemplateFault) : TemplateFault → TemplateFault
  | .inSnippet space name cause => .inSnippet space name (effect cause)
  | .inLoop cause => .inLoop (effect cause)
  | fault => effect fault

end TemplateFault

end DesignTokens

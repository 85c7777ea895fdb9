import DesignTokens.Failure.Problem

/-!
# Failures and their reports

A `Failure` is what an operation ends with: a cause and the contexts that were added on the way
out. A `Report` is what the user is shown: the problem, an explanation and a suggestion. A problem
is recovered from under its contexts; so is a fault of the file system; any other cause is
flattened into one text together with everything around it.
-/

set_option autoImplicit false

namespace DesignTokens

/-- What a failure began with. -/
inductive Cause where
  | known (problem : Problem)
  | file (fault : FileFault)
  | plain (message : String)
deriving DecidableEq, Repr

namespace Cause

/-- The texts of a cause, outermost first. A problem with the file system holds the fault as its
own cause. -/
def texts : Cause → List String
  | .known (.io fault) => [(Problem.io fault).message, fault.text]
  | .known problem => [problem.message]
  | .file fault => [fault.text]
  | .plain message => [message]

end Cause

/-- A cause under its contexts, the outermost context first. -/
structure Failure where
  contexts : List String
  cause : Cause
deriving DecidableEq, Repr

namespace Failure

/-- The failure of a problem without context. -/
def ofProblem (problem : Problem) : Failure :=
  ⟨[], .known problem⟩

/-- The failure of a plain message without context. -/
def ofMessage (message : String) : Failure :=
  ⟨[], .plain message⟩

/-- The failure of a file system operation under the context that names its path. -/
def ofFault (context : String) (fault : FileFault) : Failure :=
  ⟨[context], .file fault⟩

/-- The failure under one more context. -/
def addContext (failure : Failure) (context : String) : Failure :=
  { failure with contexts := context :: failure.contexts }

/-- All texts of a failure from the outermost context to the root cause. -/
def chain (failure : Failure) : List String :=
  failure.contexts ++ failure.cause.texts

/-- The causes below the outermost text, one numbered line each. -/
def causeLines (number : Nat) : List String → String
  | [] => ""
  | text :: rest => "\n  " ++ toString number ++ ": " ++ text ++ causeLines (number + 1) rest

/-- All texts of a failure in one: the outermost, and the others as a numbered list of causes. -/
def flatten (failure : Failure) : String :=
  match failure.chain with
  | [] => ""
  | [text] => text
  | text :: causes => text ++ "\n\nCaused by:" ++ causeLines 1 causes

end Failure

/-- What the user is shown of a failure. -/
structure Report where
  problem : Problem
  suggestion : Option String
  details : Option String
deriving DecidableEq, Repr

namespace Report

/-- A problem without advice. -/
def ofProblem (problem : Problem) : Report :=
  ⟨problem, none, none⟩

/-- What to say about a missing configuration file. -/
def missingConfigurationDetails : String :=
  "\n".intercalate
    ["The configuration was not provided or could not be found.",
      "",
      "Provide it in one of two ways:",
      "",
      "  1. Command-line argument",
      "     Pass '-c <config path>' or '--config <config path>'. The flag may be",
      "     repeated to run several configuration files in sequence.",
      "",
      "  2. File placement",
      "     Put a file named 'swift-token-gen.yml' into the directory where you run",
      "     the code generation.",
      "",
      "The configuration must be a YAML document whose top-level keys name the",
      "generators to run (for example 'xcassets' or 'files')."]

/-- What to say about a missing token file. -/
def missingTokenDetails : String :=
  "\n".intercalate
    ["No design token document was provided.",
      "",
      "Provide it in one of two ways:",
      "",
      "  1. Command-line argument",
      "     Pass '-t <token path>' or '--token <token path>'.",
      "",
      "  2. File placement",
      "     Put a file named 'token.json' into the directory where you run the code",
      "     generation.",
      "",
      "The token document must be a JSON object. Leaves are objects with a 'type'",
      "and a 'value' and an optional 'description'."]

/-- What to say about a colour that is missing or malformed. -/
def colorDetails : String :=
  "\n".intercalate
    ["The color value for the \"any\" variant is missing or in the wrong format.",
      "",
      "Make sure every color leaf in the design token has its hex value stored as a",
      "string, for example:",
      "",
      "  \"background\": \x7b \"type\": \"color\", \"value\": \"#FFFFFFFF\" \x7d"]

/-- The problem with the explanation and the suggestion that belong to it. -/
def explain (problem : Problem) : Report :=
  match problem with
  | .missingConfiguration _ =>
    ⟨problem, some "Run 'tokengen -c <config path>' or create swift-token-gen.yml",
      some missingConfigurationDetails⟩
  | .missingToken _ =>
    ⟨problem, some "Run 'tokengen -t <token path>' or create token.json",
      some missingTokenDetails⟩
  | .decodeFailure _ _ =>
    ⟨problem,
      some "Make sure the configuration is a YAML mapping and the token document a JSON object",
      some "Both documents must decode to a mapping at the top level"⟩
  | .missingRequiredKey _ guidance =>
    ⟨problem, some "Add the key to your configuration file and run tokengen again",
      some guidance⟩
  | .invalidConfigEntry key =>
    ⟨problem, none,
      some ("The value for '" ++ key ++ "' does not have the expected shape. Section values are " ++
        "lists of mappings, and 'xcassets' only accepts 'colors' and 'images'.")⟩
  | .missingTemplate _ =>
    ⟨problem, some "Run 'tokengen templates list' to see the bundled templates",
      some ("Templates are looked up by bundled name first, then as a path relative to the " ++
        "working directory")⟩
  | .subtokenNotFound _ =>
    ⟨problem, some "Check the 'keys' in your configuration against the design token document",
      some "Every key in the path must lead to an object in the token document"⟩
  | .missingColorValue _ => ⟨problem, none, some colorDetails⟩
  | .malformedColorValue _ _ =>
    ⟨problem, some "Use six (#RRGGBB) or eight (#RRGGBBAA) hex digits", some colorDetails⟩
  | .templateRender _ _ =>
    ⟨problem,
      some ("Check template syntax: variables use \x7b\x7b var \x7d\x7d, " ++
        "comments use \x7b# #\x7d, control flow uses \x7b% %\x7d"),
      some ("\n".intercalate
        ["Template errors occur when Tera cannot render the template. Common issues:",
          "- Undefined variables (use \x7b% if var is defined %\x7d to check)",
          "- Syntax errors (unclosed \x7b\x7b or \x7b% delimiters)",
          "- Unknown filters"])⟩
  | .io _ | .other _ => ofProblem problem

/-- What to try after a fault of the file system. -/
def faultSuggestion : FaultKind → String
  | .permissionDenied => "Check the permissions of the input files and output directories"
  | .notFound => "Check that the file or directory exists and the path is correct"
  | .alreadyExists | .other => "Check the paths used in your configuration"

/-- The report of a failure. -/
def ofFailure (failure : Failure) : Report :=
  match failure.cause with
  | .known problem => explain problem
  | .file fault => ⟨.io fault, some (faultSuggestion fault.kind), none⟩
  -- any other cause keeps nothing but its text
  | .plain _ => ofProblem (.other failure.flatten)

/-- The report in one text. -/
def text (report : Report) : String :=
  report.problem.message ++
    (match report.details with
      | some details => "\nDetails: " ++ details
      | none => "") ++
    (match report.suggestion with
      | some suggestion => "\nSuggestion: " ++ suggestion
      | none => "")

/-- The report as it is printed at the end of a run. -/
def display (report : Report) : String :=
  "error: " ++ report.problem.message ++ "\n" ++
    (match report.details with
      | some details => "\ndetails:\n" ++ details ++ "\n"
      | none => "") ++
    (match report.suggestion with
      | some suggestion => "\nsuggestion: " ++ suggestion ++ "\n"
      | none => "")

end Report

end DesignTokens

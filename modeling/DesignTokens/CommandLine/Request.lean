import DesignTokens.CommandLine.Arguments
import DesignTokens.Files.Action
import DesignTokens.Generate.Run

/-!
# Requests

What the arguments ask for: a run, or the list of bundled templates, and how much of the log is
shown.
-/

set_option autoImplicit false

namespace DesignTokens.CommandLine

/-- What to do. -/
inductive Command where
  | generate (run : Run)
  | listTemplates
deriving DecidableEq, Repr

/-- What to do, and the lowest level of the log that is shown. -/
structure Request where
  command : Command
  level : LogLevel
deriving DecidableEq, Repr

/-- The path of the configuration if none is given. -/
def defaultConfig : String := "swift-token-gen.yml"

/-- The path of the token document if none is given. -/
def defaultToken : String := "token.json"

namespace Given

/-- The run that the options ask for. -/
def run (given : Given) : Run :=
  ⟨if given.configs.isEmpty then [defaultConfig] else given.configs,
    given.token.getD defaultToken⟩

/-- The level of the log that the options ask for. -/
def logLevel (given : Given) : LogLevel :=
  if given.verbose then .debug else if given.quiet then .error else .info

end Given

/-- Reads the arguments behind the name of the program. -/
def Request.read (arguments : List String) : Except Refusal Request := do
  let (level, given) ← readLevel .program .nothing arguments
  let command :=
    match level with
    | .templates | .templatesList => .listTemplates
    | .program | .run | .help => .generate given.run
  return ⟨command, given.logLevel⟩

end DesignTokens.CommandLine

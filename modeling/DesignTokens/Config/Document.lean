import DesignTokens.Files.Action
import DesignTokens.Yaml.Document

/-!
# Configuration documents

A configuration is a YAML mapping from the names of sections to what they hold. Its sections are in
canonical form, so that they are visited in the order of their names.
-/

set_option autoImplicit false

namespace DesignTokens

/-- A configuration and the path that it comes from. -/
structure Config where
  path : String
  sections : Members

namespace Config

/-- Reads a configuration from its text; `path` names it in problems. -/
def parse (path text : String) : Except Problem Config :=
  match Yaml.decode text with
  | .error fault => .error (.decodeFailure path fault.message)
  | .ok (.object sections) => .ok ⟨path, sections⟩
  | .ok value =>
    .error (.decodeFailure path
      ("the configuration must be a mapping, found " ++ value.kindName))

/-- Loads the configuration at a path. -/
def load (path : String) : Action Config := do
  if !(← Action.ask (·.present path)) then
    throw (.ofProblem (.missingConfiguration path))
  let config ← Action.ofExcept (parse path (← Action.readText path))
  Action.log .debug ("Loaded configuration from " ++ path ++ " (" ++
    toString config.sections.length ++ " sections)")
  return config

end Config

end DesignTokens

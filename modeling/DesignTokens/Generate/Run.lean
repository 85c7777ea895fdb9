import DesignTokens.Generate.Section
import DesignTokens.Token.Load

/-!
# Runs

A run loads its configurations and the token document and generates everything. Nothing is generated
unless all documents are loaded.
-/

set_option autoImplicit false

namespace DesignTokens

variable [Template.Engine]

/-- What to generate: the paths of the configurations and of the token document. -/
structure Run where
  configs : List String
  token : String
deriving DecidableEq, Repr

namespace Run

/-- Loads the documents and generates everything below a directory. -/
def execute (run : Run) (directory : String) : Action Unit := do
  let configs ← run.configs.mapM fun path => Config.load (Path.join directory path)
  let token ← DesignToken.load (Path.join directory run.token)
  Action.log .debug ("Loaded " ++ toString configs.length ++ " configuration file(s)")
  Config.generateAll ⟨token, directory⟩ configs
  Action.log .info "Done"

end Run

end DesignTokens

import DesignTokens.Files.Action
import DesignTokens.Token.Document
import DesignTokens.Value.Decode

/-!
# Loading the token document

`DesignToken.load` reads the document from a JSON file. A missing file, a text that is no JSON and a
value that is no object are three different problems; any other fault of the file system stays
what it is.
-/

set_option autoImplicit false

namespace DesignTokens.DesignToken

/-- Reads JSON text; `path` names it in the problem. -/
def decodeText (path text : String) : Except Problem Value :=
  (Value.decode text).mapError fun fault => .decodeFailure path fault.message

/-- The document of a decoded file. -/
def ofDecoded (path : String) : Value → Except Problem DesignToken
  | .object members => .ok (ofMembers members)
  | _ => .error (.decodeFailure path "the token document must be a JSON object")

/-- Loads the document at a path. -/
def load (path : String) : Action DesignToken := do
  if !(← Action.ask (·.present path)) then
    throw (.ofProblem (.missingToken path))
  let value ← Action.ofExcept (decodeText path (← Action.readText path))
  Action.log .debug ("Loaded design token from " ++ path)
  Action.ofExcept (ofDecoded path value)

end DesignTokens.DesignToken

/-!
# Problems

A `Problem` is a failure whose cause this program knows: a document that is missing or malformed, a
configuration that lacks a key, a colour that is no colour, a template that cannot be rendered.
`Problem.message` is its text.
-/

set_option autoImplicit false

namespace DesignTokens

/-- What went wrong in the file system, as far as advice depends on it. -/
inductive FaultKind where
  | notFound
  | permissionDenied
  | alreadyExists
  | other
deriving DecidableEq, Repr

/-- A failure of the file system, with the system's own words for it. -/
structure FileFault where
  kind : FaultKind
  text : String
deriving DecidableEq, Repr

/-- A failure with a known cause. -/
inductive Problem where
  /-- The configuration file does not exist. -/
  | missingConfiguration (path : String)
  /-- The token file does not exist. -/
  | missingToken (path : String)
  /-- A document was read but does not have the expected shape. -/
  | decodeFailure (path reason : String)
  /-- A required key is absent or of the wrong type; `guidance` says how to mend it. -/
  | missingRequiredKey (key guidance : String)
  /-- A key is present but its value has the wrong shape. -/
  | invalidConfigEntry (key : String)
  /-- A template is neither bundled nor a file. -/
  | missingTemplate (name : String)
  /-- A path of keys does not lead to an object of the token document. -/
  | subtokenNotFound (keys : List String)
  /-- A colour whose light value is no string. -/
  | missingColorValue (name : String)
  /-- A colour whose text cannot be split into channels. -/
  | malformedColorValue (name hex : String)
  /-- A template could not be read or rendered. -/
  | templateRender (template message : String)
  | io (fault : FileFault)
  | other (message : String)
deriving DecidableEq, Repr

namespace Problem

/-- The problem in words. -/
def message : Problem → String
  | .missingConfiguration path => "Configuration file not found: " ++ path
  | .missingToken path => "Design token file not found: " ++ path
  | .decodeFailure path reason => "Failed to decode " ++ path ++ ": " ++ reason
  | .missingRequiredKey key _ => "Missing required configuration key '" ++ key ++ "'"
  | .invalidConfigEntry key => "Invalid configuration entry for key '" ++ key ++ "'"
  | .missingTemplate name => "Template '" ++ name ++ "' could not be found"
  | .subtokenNotFound keys =>
    "Failed to retrieve subtoken for keys: " ++ ", ".intercalate keys
  | .missingColorValue name =>
    "The \"any\" color value for '" ++ name ++ "' is missing or not a string"
  | .malformedColorValue name hex =>
    "The color value '" ++ hex ++ "' for '" ++ name ++ "' is not a valid hex color"
  | .templateRender template text => "Failed to render template '" ++ template ++ "': " ++ text
  | .io fault => "IO error: " ++ fault.text
  | .other text => text

end Problem

end DesignTokens

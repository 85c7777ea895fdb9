import DesignTokens.Files.Action
import DesignTokens.Template.Bundled
import DesignTokens.Template.Render
import DesignTokens.Template.Suggestion

/-!
# Sources of templates

A reference names a bundled template or a file. `TemplateSource.renderTo` loads the text, renders it
and writes the result; nothing is written unless the whole text was rendered.
-/

set_option autoImplicit false

namespace DesignTokens

variable [Template.Engine]

/-- Where the text of a template comes from. -/
inductive TemplateSource where
  | bundled (template : BundledTemplate)
  | file (path : String)
deriving DecidableEq, Repr

namespace Template

/-- The problem of a template that failed in a context: the message of the fault, with the keys of
the context that might be meant. -/
def report (name : String) (context : Members) (fault : TemplateFault) : Problem :=
  .templateRender name (withSuggestion (context.map (·.1)) fault.message)

/-- Renders the text of a template; `name` is for problems only. -/
def render (name text : String) (context : Members) : Except Problem String :=
  (renderText text context).mapError (report name context)

end Template

namespace TemplateSource

/-- The source of a reference: a bundled name before a file below the directory. -/
def resolve (reference directory : String) : Action TemplateSource := do
  match BundledTemplate.find? reference with
  | some template => return .bundled template
  | none =>
    let path := Path.join directory reference
    -- a directory of that name is no template
    if ← Action.ask (·.isFile path) then return .file path
    else throw (.ofProblem (.missingTemplate reference))

/-- The name of a source in the log and in problems. -/
def name : TemplateSource → String
  | .bundled template => template.name
  | .file path => path

/-- The text of a source. -/
def load : TemplateSource → Action String
  | .bundled template => pure template.content
  | .file path => Action.readText path

/-- Renders a source into a file. -/
def renderTo (source : TemplateSource) (context : Members) (output : String) : Action Unit := do
  Action.log .debug ("Rendering template '" ++ source.name ++ "' to " ++ output)
  let text ← source.load
  let rendered ← Action.ofExcept (Template.render source.name text context)
  -- the text is complete before anything is written
  Action.writeText output rendered

end TemplateSource

end DesignTokens

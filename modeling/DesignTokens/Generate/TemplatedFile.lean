import DesignTokens.Generate.Basic
import DesignTokens.Stage.Sort
import DesignTokens.Template.Source

/-!
# Templated files

An entry of the section `files` resolves a list of inputs from the token document and renders each
of its outputs with all of them. No output is begun before every input is resolved.
-/

set_option autoImplicit false

namespace DesignTokens.TemplatedFile

variable [Template.Engine]

/-- The key of the path of keys of an input. -/
def keysKey : Key :=
  .withGuidance "keys"
    ["You need to provide the key path of the values inside the design token.",
      "",
      "Add 'keys' to every input, for example:",
      "",
      "  files:",
      "    - inputs:",
      "        - keys: [grid]",
      "          params:",
      "            objectName: Phone",
      "        - keys: [grid, tv]",
      "          params:",
      "            objectName: TV",
      "      outputs:",
      "        - template: Templates/Grid.tera",
      "          output: Generated/DesignTokenGrid.swift"]

/-- The key of the template of an output. -/
def templateKey : Key :=
  .withGuidance "template"
    ["You need to provide a template for every output.",
      "",
      "Use the name of a bundled template (see 'tokengen templates list') or a path",
      "relative to the working directory. Templates use Tera syntax; the resolved",
      "values are available as 'inputs', for example",
      "'\x7b% for value in inputs[0].values %\x7d\x7b\x7b value.name \x7d\x7d\x7b% endfor %\x7d'."]

/-- The key of the path of an output. -/
def outputKey : Key :=
  .withGuidance "output"
    ["You need to provide an output path for every rendered template.",
      "",
      "Paths are relative to the directory tokengen runs in."]

/-- The stages that the values of an input run through. -/
def stages : List (Stage TokenValue) :=
  [Stage.addPrefix, Stage.sortValues]

/-- The parameters of an input or an output, or null. -/
def paramsOf (mapping : Value) : Value :=
  .ofOption (Key.params.raw? (some mapping))

/-- The keys and the processed values of an input. -/
def resolve (token : DesignToken) (input : Value) :
    Except Problem (List String × List TokenValue) := do
  let keys ← keysKey.required Shape.strings (some input)
  let usePrefix := (Key.keysAsNamePrefix.optional? Shape.bool (some input)).getD false
  let values ← token.values keys usePrefix
  return (keys, Stage.run stages (some input) values)

/-- What templates see of an input. -/
def shown (input : Value) (values : List TokenValue) : Value :=
  .object [("params", paramsOf input), ("values", .array (values.map TokenValue.toValue))]

/-- Resolves an input to what templates see of it. -/
def resolveInput (token : DesignToken) (input : Value) : Action Value := do
  let (keys, values) ← Action.ofExcept (resolve token input)
  Action.log .debug ("Resolved " ++ toString values.length ++ " values for keys [" ++
    ", ".intercalate keys ++ "]")
  return shown input values

/-- What the template of an output sees. -/
def context (inputs : List Value) (output : Value) : Members :=
  [("inputs", .array inputs), ("params", paramsOf output)]

/-- Renders an output. -/
def renderOutput (directory : String) (inputs : List Value) (output : Value) : Action Unit := do
  let template ← Action.ofExcept (templateKey.required Shape.string (some output))
  let destination ← Action.ofExcept (outputKey.required Shape.string (some output))
  let source ← TemplateSource.resolve template directory
  let path := Path.join directory destination
  -- only rendering and writing fail under the name of the file
  Action.within ("Failed to generate " ++ destination)
    (source.renderTo (context inputs output) path)
  Action.log .info ("Generated " ++ path)

/-- Generates the files of an entry. -/
def generate (project : Project) (entry : Value) : Action Unit := do
  let inputs ← Action.ofExcept (listUnder "inputs" entry)
  let outputs ← Action.ofExcept (listUnder "outputs" entry)
  let resolved ← inputs.mapM (resolveInput project.token)
  outputs.forM (renderOutput project.directory resolved)

/-- The generator of the section `files`. -/
def generator : Generator :=
  .ofEntries "files" generate

end DesignTokens.TemplatedFile

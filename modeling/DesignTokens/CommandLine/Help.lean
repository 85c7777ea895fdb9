import DesignTokens.CommandLine.Arguments
import DesignTokens.Template.Bundled

/-!
# Texts of the command line

The list of bundled templates, the help of every level, and what is said about arguments that cannot
be carried out.
-/

set_option autoImplicit false

namespace DesignTokens.CommandLine

/-- The name and the version of the program. -/
def versionText : String := "tokengen 0.1.0\n"

/-! ### Templates -/

/-- The text with spaces behind it up to a width. -/
def padRight (width : Nat) (text : String) : String :=
  text ++ String.ofList (List.replicate (width - text.utf8ByteSize) ' ')

/-- The list of templates with their descriptions in one column. -/
def templateList (templates : List BundledTemplate) : String :=
  let width := (templates.map (·.name.utf8ByteSize)).foldl max 0
  let lines := templates.map fun template =>
    "  " ++ padRight width template.name ++ "  " ++ template.description ++ "\n"
  "Bundled templates:\n" ++ String.join lines ++
    "\nReference a template by name in the 'template' key of a files output.\n"

/-! ### Help -/

namespace Level

/-- What a level is for. -/
def about : Level → String
  | .program => "Generate Xcode asset catalogs and source files from design tokens"
  | .run => "Generate artifacts from configuration and token files"
  | .templates => "Inspect bundled templates"
  | .templatesList => "List bundled templates"
  | .help => "Print this message or the help of the given subcommand(s)"

/-- How a level is called. -/
def usage : Level → String
  | .program => "tokengen [OPTIONS]\n       tokengen <COMMAND>"
  | .run => "tokengen run [OPTIONS]"
  | .templates => "tokengen templates [OPTIONS] [COMMAND]"
  | .templatesList => "tokengen templates list [OPTIONS]"
  | .help => "tokengen help [COMMAND]..."

end Level

namespace Switch

/-- What an option does. -/
def about : Switch → String
  | .config =>
    "Configuration file, may be repeated. Files run in the order given " ++
      "[default: swift-token-gen.yml]"
  | .token => "Design token file [default: token.json]"
  | .verbose => "Enable debug output"
  | .quiet => "Only print errors"
  | .help => "Print help"
  | .version => "Print version"

end Switch

/-- A table of two columns. -/
def columns (rows : List (String × String)) : String :=
  let width := (rows.map (·.1.utf8ByteSize)).foldl max 0
  String.join (rows.map fun (left, right) =>
    "  " ++ padRight width left ++ "  " ++ right ++ "\n")

/-- The help of a level. -/
def helpText (level : Level) : String :=
  let commands := level.commands.map fun (word, inner) => (word, inner.about)
  let switches := level.switches.map fun (letter, word, switch) =>
    ("-" ++ String.singleton letter ++ ", --" ++ word ++
      (if switch.takesValue then " <PATH>" else ""), switch.about)
  level.about ++ "\n\nUsage: " ++ level.usage ++ "\n" ++
    (if commands.isEmpty then "" else "\nCommands:\n" ++ columns commands) ++
    (if switches.isEmpty then "" else "\nOptions:\n" ++ columns switches)

/-! ### Mistakes -/

namespace Refusal

/-- The mistake in words. -/
def message : Refusal → String
  | .help _ => "help was requested"
  | .version => "the version was requested"
  | .conflict => "the arguments cannot be used together"
  | .unknownCommand => "unrecognized subcommand"
  | .unknownArgument => "unexpected argument found"
  | .unusableValue => "a value is required for an option but none was supplied"
  | .surplusValue => "unexpected value for an option that takes none"

/-- What is printed about a mistake. -/
def text (refusal : Refusal) : String :=
  "error: " ++ refusal.message ++ "\n\nUsage: " ++ Level.program.usage ++
    "\n\nFor more information, try '--help'.\n"

end Refusal

end DesignTokens.CommandLine

import DesignTokens.CommandLine.Help
import DesignTokens.CommandLine.Request

/-!
# Calls of the program

A call takes arguments and a world and ends with an `Outcome`: an exit code and what is printed.
The log goes to the error stream, and the report of a failure comes last. The program that is run
has the engine without anything else, so templates have the filters and tests that are spelled out
and no functions.
-/

set_option autoImplicit false

namespace DesignTokens

namespace LogLevel

/-- How much a level matters. -/
def weight : LogLevel → Nat
  | .debug => 0
  | .info => 1
  | .warning => 2
  | .error => 3

/-- The word of a level, five characters wide. -/
def word : LogLevel → String
  | .debug => "DEBUG"
  | .info => " INFO"
  | .warning => " WARN"
  | .error => "ERROR"

end LogLevel

namespace CommandLine

/-- What a call leaves behind besides files. -/
structure Outcome where
  code : Nat
  output : String
  errors : String
deriving DecidableEq, Repr

/-- The lines of a log from a level on. -/
def logText (level : LogLevel) (log : List LogLine) : String :=
  String.join ((log.filter fun line => level.weight ≤ line.level.weight).map fun line =>
    line.level.word ++ " " ++ line.message ++ "\n")

/-- Carries out a request below a directory. -/
def Request.perform [Template.Engine] (request : Request) (directory : String) (tree : FileTree) :
    Outcome × FileTree :=
  match request.command with
  | .listTemplates => (⟨0, templateList BundledTemplate.all, ""⟩, tree)
  | .generate run =>
    let (result, world) := (run.execute directory).run.run ⟨tree, []⟩
    -- what was logged before a failure is printed as well
    let log := logText request.level world.log
    match result with
    | .ok () => (⟨0, "", log⟩, world.tree)
    | .error failure => (⟨1, "", log ++ (Report.ofFailure failure).display⟩, world.tree)

/-- The outcome of arguments that are not carried out. -/
def Refusal.outcome : Refusal → Outcome
  | .help level => ⟨0, helpText level, ""⟩
  | .version => ⟨0, versionText, ""⟩
  | mistake => ⟨2, "", mistake.text⟩

/-- The outcome of a call with the arguments behind the name of the program. -/
def call [Template.Engine] (arguments : List String) (directory : String) (tree : FileTree) :
    Outcome × FileTree :=
  match Request.read arguments with
  | .ok request => request.perform directory tree
  | .error refusal => (refusal.outcome, tree)

end CommandLine

attribute [instance] Template.Engine.plain

end DesignTokens

import DesignTokens.Failure.Report
import DesignTokens.Files.Tree
import DesignTokens.Keyed

/-!
# Actions on files

An `Action` works on a `World`, a file tree and the log, and may fail; what it did before it failed
stays done. The actions here add to every fault the context that names the path.
-/

set_option autoImplicit false

namespace DesignTokens

/-- How much a line of the log matters. -/
inductive LogLevel where
  | debug
  | info
  | warning
  | error
deriving DecidableEq, Repr

/-- A line of the log. -/
structure LogLine where
  level : LogLevel
  message : String
deriving DecidableEq, Repr

/-- What actions work on: the files, and the log so far. -/
structure World where
  tree : FileTree
  log : List LogLine

/-- A computation that changes the world and may fail. -/
abbrev Action := ExceptT Failure (StateM World)

namespace Action

/-- Writes a line of the log. -/
def log (level : LogLevel) (message : String) : Action Unit :=
  modify fun world => { world with log := world.log ++ [⟨level, message⟩] }

/-- The result of a computation that only a problem can end. -/
def ofExcept {α : Type} : Except Problem α → Action α
  | .ok a => pure a
  | .error problem => throw (.ofProblem problem)

/-- Runs an action and adds a context to its failure. -/
def within {α : Type} (context : String) (action : Action α) : Action α :=
  tryCatch action fun failure => throw (failure.addContext context)

/-- The answer to a question about the files. -/
def ask {α : Type} (question : FileTree → α) : Action α := do
  return question (← get).tree

/-- Looks something up in the files; a fault fails with the context. -/
def look {α : Type} (context : String) (question : FileTree → Except FileFault α) : Action α := do
  match question (← get).tree with
  | .ok a => return a
  | .error fault => throw (.ofFault context fault)

/-- Changes the files; a fault fails with the context. -/
def change (context : String) (step : FileTree → Except FileFault FileTree) : Action Unit := do
  let tree ← look context step
  modify fun world => { world with tree }

/-- Makes a directory with all that is missing on the way to it. Fails if the path leads to
something else. -/
def ensureDirectory (path : String) : Action Unit := do
  if !(← ask (·.present path)) then
    let (tree, result) := (← get).tree.makeDirectories path (path.length + 1)
    -- the directories that could be made stay, also if others could not
    modify fun world => { world with tree }
    match result with
    | .ok () => return
    | .error fault => throw (.ofFault ("Failed to create directory: " ++ path) fault)
  else if !(← ask (·.isDirectory path)) then
    throw (.ofMessage ("Path exists but is not a directory: " ++ path))

/-- Makes the directory that a path lies in. -/
def ensureParent (path : String) : Action Unit := do
  match Path.parent? path with
  | some parent => ensureDirectory parent
  | none => return

/-- Reads a text file. -/
def readText (path : String) : Action String :=
  look ("Failed to read file: " ++ path) (·.readText path)

/-- Writes a text file and makes the directories on the way to it. -/
def writeText (path content : String) : Action Unit := do
  ensureParent path
  change ("Failed to write file: " ++ path) (·.write path content.toUTF8)

/-- Copies a file to a place from which whatever was there is removed first. -/
def replaceFile (source destination : String) : Action Unit := do
  -- a link that leads nowhere does not count as present
  if ← ask (·.present destination) then
    change ("Failed to remove existing file: " ++ destination) (·.remove destination)
  ensureParent destination
  change ("Failed to copy file from " ++ source ++ " to " ++ destination)
    (·.copy source destination)

/-- Whether a node is a file whose name does not start with a dot. -/
def isVisibleFile : String × Node → Bool
  | (name, .file _) => !(name.toList.head? == some '.')
  | _ => false

/-- The paths of the visible files directly inside a directory, in the order of their names. -/
def listFiles (directory : String) : Action (List String) := do
  let found ← look ("Failed to read directory: " ++ directory) (·.list directory)
  -- the names in a directory are distinct, so the table only orders them
  let names := Keyed.ofList (found.filter isVisibleFile)
  return names.map fun (name, _) => Path.join directory name

end Action

end DesignTokens

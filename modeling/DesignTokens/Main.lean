import DesignTokens.CommandLine.Call

/-!
# The program

The program reads everything below the working directory into a tree, carries out the call on it and
writes what has changed back. Files that cannot be read are left out of the tree, and so are those
outside the working directory, which can be written but not read.
-/

set_option autoImplicit false

namespace DesignTokens.Disk

/-- The path of a location. -/
def pathOf (location : Location) : String :=
  "/" ++ "/".intercalate location

/-- The node of a directory entry, if it can be read. A link stands for where it leads to. -/
def nodeOf? (entry : IO.FS.DirEntry) : IO (Option Node) := do
  try
    match (← entry.path.symlinkMetadata).type with
    | .dir => return some .directory
    | .file => return some (.file (← IO.FS.readBinFile entry.path))
    | .symlink => return some (.link (toString (← IO.FS.realPath entry.path)))
    | .other => return none
  catch _ => return none

/-- Adds the entries of a directory to a tree, with everything below them. -/
partial def addEntries (directory : Location) (tree : FileTree)
    (entries : Array IO.FS.DirEntry) : IO FileTree :=
  entries.foldlM (fun tree entry => do
    let location := directory ++ [entry.fileName]
    match ← nodeOf? entry with
    | none => return tree
    | some .directory =>
      addEntries location (tree.put location .directory) (← entry.path.readDir)
    | some node => return tree.put location node) tree

/-- The tree of an empty directory. -/
def emptyAt (directory : Location) : FileTree :=
  (List.range directory.length).foldl
    (fun tree depth => tree.put (directory.take (depth + 1)) .directory) ⟨[], directory⟩

/-- Writes the difference between two trees to the disk. -/
def writeChanges (old new : FileTree) : IO Unit := do
  for (location, _) in old.entries do
    if (new.node? location).isNone then IO.FS.removeFile (pathOf location)
  for (location, node) in new.entries do
    if old.node? location ≠ some node then
      match node with
      | .directory => IO.FS.createDirAll (pathOf location)
      | .file content =>
        IO.FS.createDirAll (pathOf location.dropLast)
        IO.FS.writeBinFile (pathOf location) content
      | .link _ => pure ()

end DesignTokens.Disk

open DesignTokens in
/-- Carries out a call in the working directory. -/
def main (arguments : List String) : IO UInt32 := do
  let here ← IO.currentDir
  let location := FileTree.components (toString here)
  let tree ← Disk.addEntries location (Disk.emptyAt location) (← here.readDir)
  let (outcome, after) := CommandLine.call arguments (toString here) tree
  Disk.writeChanges tree after
  IO.print outcome.output
  IO.eprint outcome.errors
  return outcome.code.toUInt32

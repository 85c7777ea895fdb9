import DesignTokens.Failure.Problem
import DesignTokens.Files.Path

/-!
# File trees

A `FileTree` holds directories, files and symbolic links by their location, the list of names from
the root, and knows the directory that relative paths start from. `walk` follows a path to the
place it names: something that exists, or a free name in an existing directory. Both `.` and `..`
are resolved on the way, and links are followed at most forty times.

An operation that fails leaves the tree as it is; only `makeDirectories`, which works in steps,
returns a tree in either case.
-/

set_option autoImplicit false

namespace DesignTokens

namespace FileFault

/-- A component of a path does not exist. -/
def noEntry : FileFault := ⟨.notFound, "No such file or directory (os error 2)"⟩

/-- Something exists already. -/
def alreadyThere : FileFault := ⟨.alreadyExists, "File exists (os error 17)"⟩

/-- A component that should be a directory is none. -/
def notDirectory : FileFault := ⟨.other, "Not a directory (os error 20)"⟩

/-- A directory stands where a file should be. -/
def isDirectory : FileFault := ⟨.other, "Is a directory (os error 21)"⟩

/-- A name or a path is too long. -/
def tooLong : FileFault := ⟨.other, "File name too long (os error 36)"⟩

/-- Links lead to links without end. -/
def tooManyLinks : FileFault := ⟨.other, "Too many levels of symbolic links (os error 40)"⟩

/-- A path holds the character zero. -/
def zeroInPath : FileFault := ⟨.other, "file name contained an unexpected NUL byte"⟩

/-- A text file is not valid UTF-8. -/
def notText : FileFault := ⟨.other, "stream did not contain valid UTF-8"⟩

/-- Something other than a file was to be copied. -/
def notCopyable : FileFault :=
  ⟨.other, "the source path is neither a regular file nor a symlink to a regular file"⟩

end FileFault

/-- The instance of the core library, which other libraries hide by their own. -/
local instance decidableEqBytes : DecidableEq ByteArray := ByteArray.instDecidableEq

/-- What can stand at a location. -/
inductive Node where
  | directory
  | file (content : ByteArray)
  | link (target : String)
deriving DecidableEq

/-- The names that lead from the root to a place, without `.`, `..` and links. -/
abbrev Location := List String

/-- The contents of a file system, and the directory that relative paths start from. -/
structure FileTree where
  entries : List (Location × Node)
  current : Location

namespace FileTree

/-- What stands at a location. The root is always a directory. -/
def node? (tree : FileTree) : Location → Option Node
  | [] => some .directory
  | name :: names => tree.entries.lookup (name :: names)

/-- The tree with a node at a location. -/
def put (tree : FileTree) (location : Location) (node : Node) : FileTree :=
  { tree with
    entries := (location, node) :: tree.entries.filter fun entry => entry.1 ≠ location }

/-- The tree without the node at a location. -/
def erase (tree : FileTree) (location : Location) : FileTree :=
  { tree with entries := tree.entries.filter fun entry => entry.1 ≠ location }

/-- The names of what stands directly inside a directory, with it. -/
def children (tree : FileTree) (directory : Location) : List (String × Node) :=
  tree.entries.filterMap fun (location, node) =>
    match location.getLast? with
    | some name => if location.dropLast = directory then some (name, node) else none
    | none => none

/-! ### Following paths -/

/-- The place that a path names. -/
inductive Place where
  /-- A node that exists. -/
  | found (location : Location) (node : Node)
  /-- A free name in an existing directory. -/
  | free (directory : Location) (name : String)

/-- The greatest size of a name in bytes. -/
def maxName : Nat := 255

/-- The least size of a path in bytes that is too long. -/
def maxPath : Nat := 4096

/-- How often links may be followed on one path. -/
def maxLinks : Nat := 40

/-- The components of a path: the pieces between slashes that are not empty. -/
def components (path : String) : List String :=
  ((Text.splitOn '/' path.toList).filter (!·.isEmpty)).map String.ofList

/-- Whether a path ends in a slash, and so names a directory. -/
def endsInSlash (path : String) : Bool :=
  path.toList.getLast? == some '/'

/-- The components of a path that must be a directory if it ends in a slash, which a final `.`
says as well. -/
def steps (path : String) : List String :=
  components path ++ if endsInSlash path then ["."] else []

/-- Where a path starts in a directory. -/
def start (directory : Location) (path : String) : Location :=
  if Path.isAbsolute path then [] else directory

/-- Follows components from a directory. A link at the end is followed only if `last` says so;
`follow` walks on from the directory of a link over its target and what comes after it. -/
def walkFrom (tree : FileTree) (last : Bool)
    (follow : Location → List String → Except FileFault Place) (directory : Location) :
    List String → Except FileFault Place
  | [] => .ok (.found directory .directory)
  | name :: rest =>
    if name = "." then walkFrom tree last follow directory rest
    else if name = ".." then walkFrom tree last follow directory.dropLast rest
    else if maxName < name.utf8ByteSize then .error .tooLong
    else
      let location := directory ++ [name]
      match tree.node? location with
      | none => if rest.isEmpty then .ok (.free directory name) else .error .noEntry
      | some .directory => walkFrom tree last follow location rest
      | some (.file content) =>
        if rest.isEmpty then .ok (.found location (.file content)) else .error .notDirectory
      | some (.link target) =>
        -- in the middle of a path a link is always followed
        if rest.isEmpty && !last then .ok (.found location (.link target))
        else follow (start directory target) (steps target ++ rest)

/-- Follows components from a directory, over at most `links` links. -/
def walk (tree : FileTree) (last : Bool) :
    (links : Nat) → Location → List String → Except FileFault Place
  | 0 => walkFrom tree last fun _ _ => .error .tooManyLinks
  | links + 1 => walkFrom tree last (walk tree last links)

/-- Fails for a path that no system call accepts. -/
def checkPath (path : String) : Except FileFault Unit :=
  if path.toList.contains (Char.ofNat 0) then .error .zeroInPath
  else if path.isEmpty then .error .noEntry
  else if maxPath ≤ path.utf8ByteSize then .error .tooLong
  else .ok ()

/-- The place that a path names. With `last`, a link at its end is followed. -/
def place (tree : FileTree) (last : Bool) (path : String) : Except FileFault Place := do
  checkPath path
  walk tree last maxLinks (start tree.current path) (steps path)

/-- The node that a path leads to. -/
def resolve (tree : FileTree) (path : String) : Except FileFault (Location × Node) := do
  match ← tree.place true path with
  | .found location node => return (location, node)
  | .free _ _ => throw .noEntry

/-- The directory of the last component of a path, and that component. The path must end in a name:
one that ends in `.` or `..`, or that is the root, fails with `dots`. -/
def lastStep (tree : FileTree) (dots : FileFault) (path : String) :
    Except FileFault (Location × String) := do
  checkPath path
  match (components path).reverse with
  | [] => throw dots
  | name :: before =>
    -- what comes before the name has to be a directory even if nothing follows
    match ← walk tree true maxLinks (start tree.current path) (before.reverse ++ ["."]) with
    | .found directory _ =>
      if name = "." || name = ".." then throw dots else return (directory, name)
    | .free _ _ => throw .noEntry

/-! ### Questions -/

/-- Whether a path leads to something. -/
def present (tree : FileTree) (path : String) : Bool :=
  match tree.resolve path with
  | .ok _ => true
  | .error _ => false

/-- Whether a path leads to a directory. -/
def isDirectory (tree : FileTree) (path : String) : Bool :=
  match tree.resolve path with
  | .ok (_, .directory) => true
  | _ => false

/-- Whether a path leads to a file. -/
def isFile (tree : FileTree) (path : String) : Bool :=
  match tree.resolve path with
  | .ok (_, .file _) => true
  | _ => false

/-- The bytes of the file that a path leads to. -/
def read (tree : FileTree) (path : String) : Except FileFault ByteArray := do
  match ← tree.resolve path with
  | (_, .file content) => return content
  | _ => throw .isDirectory

/-- The text of the file that a path leads to. -/
def readText (tree : FileTree) (path : String) : Except FileFault String := do
  match String.fromUTF8? (← tree.read path) with
  | some text => return text
  | none => throw .notText

/-- The names of what stands directly inside the directory that a path leads to. -/
def list (tree : FileTree) (path : String) : Except FileFault (List (String × Node)) := do
  match ← tree.resolve path with
  | (location, .directory) => return tree.children location
  | _ => throw .notDirectory

/-! ### Changes -/

/-- Writes a file, which is created if it does not exist. A link at the end is followed. -/
def write (tree : FileTree) (path : String) (content : ByteArray) : Except FileFault FileTree := do
  let _ ← tree.lastStep .isDirectory path
  if endsInSlash path then throw .isDirectory
  -- a link to nothing is written through: its target becomes the file
  match ← tree.place true path with
  | .found _ .directory => throw .isDirectory
  | .found location _ => return tree.put location (.file content)
  | .free directory name => return tree.put (directory ++ [name]) (.file content)

/-- Makes a directory in an existing one. -/
def makeDirectory (tree : FileTree) (path : String) : Except FileFault FileTree := do
  let (directory, name) ← tree.lastStep .alreadyThere path
  -- a link under the name counts as present, wherever it leads
  match ← walk tree false maxLinks directory [name] with
  | .found _ _ => throw .alreadyThere
  | .free directory name => return tree.put (directory ++ [name]) .directory

/-- Removes a file or a link. -/
def remove (tree : FileTree) (path : String) : Except FileFault FileTree := do
  let (directory, name) ← tree.lastStep .isDirectory path
  -- the name is not followed, so a link goes and its target stays
  match ← walk tree false maxLinks directory [name] with
  | .free _ _ => throw .noEntry
  | .found _ .directory => throw .isDirectory
  | .found location _ =>
    if endsInSlash path then throw .notDirectory else return tree.erase location

/-- Copies a file over another, which is created if it does not exist. The destination is emptied
before the source is read, so a file that is copied onto itself is lost. -/
def copy (tree : FileTree) (source destination : String) : Except FileFault FileTree := do
  match ← tree.resolve source with
  | (_, .file _) =>
    -- the source is looked up once more, in the emptied tree
    let emptied ← tree.write destination .empty
    emptied.write destination (← emptied.read source)
  | _ => throw .notCopyable

/-- Makes a directory and those that are missing on the way to it, each as far as the one before
could be made; `depth` bounds the number of missing ones. -/
def makeDirectories (tree : FileTree) (path : String) :
    (depth : Nat) → FileTree × Except FileFault Unit
  | 0 => (tree, .error .noEntry)
  | depth + 1 =>
    if path.isEmpty then (tree, .ok ())
    else
      match tree.makeDirectory path with
      | .ok made => (made, .ok ())
      | .error fault =>
        if fault.kind = .notFound then
          match Path.parent? path with
          | none => (tree, .error fault)
          | some parent =>
            match makeDirectories tree parent depth with
            | (tree, .error fault) => (tree, .error fault)
            | (tree, .ok ()) =>
              -- the parents may have made this path as well, through a link or a double dot
              match tree.makeDirectory path with
              | .ok made => (made, .ok ())
              | .error fault =>
                if tree.isDirectory path then (tree, .ok ()) else (tree, .error fault)
        else if tree.isDirectory path then (tree, .ok ())
        else (tree, .error fault)

end FileTree

end DesignTokens

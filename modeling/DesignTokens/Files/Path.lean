import DesignTokens.Text.Split

/-!
# Paths

Paths are texts whose components stand between slashes. Nothing here looks at a file tree: `..` is
never resolved, and a path is printed as it was put together.
-/

set_option autoImplicit false

namespace DesignTokens.Path

/-- Whether a piece between slashes names nothing: it is empty or a single dot. -/
def isVoid (piece : List Char) : Bool :=
  piece = [] || piece = ['.']

/-- Whether the path starts at the root. -/
def isAbsolute (path : String) : Bool :=
  path.toList.head? == some '/'

/-- The path of `path` below `base`. An absolute path stays as it is. -/
def join (base path : String) : String :=
  if isAbsolute path || base.isEmpty then path
  else if base.toList.getLast? == some '/' then base ++ path
  else base ++ "/" ++ path

/-- The last component, unless the path ends in `..` or has none. Trailing slashes and dots do not
count. -/
def fileName? (path : String) : Option String :=
  match ((Text.splitOn '/' path.toList).filter (!isVoid ·)).getLast? with
  | some piece => if piece = ['.', '.'] then none else some (String.ofList piece)
  | none => none

/-- The pieces without the void ones at the end. -/
def trimVoid (pieces : List (List Char)) : List (List Char) :=
  (pieces.reverse.dropWhile isVoid).reverse

/-- The path without its last component; `none` for the root and for the empty path. -/
def parent? (path : String) : Option String :=
  match Text.splitOn '/' path.toList with
  | [] => none
  | first :: rest =>
    match trimVoid rest, first with
    -- a path that starts with a slash has an empty first piece
    | [], [] => none
    | [], _ => some ""
    | body, first =>
      match trimVoid body.dropLast, first with
      | [], [] => some "/"
      | kept, first => some (String.ofList (Text.join ['/'] (first :: kept)))

/-- The part of the last component after its last dot. A dot that starts the component does not
count. -/
def extension? (path : String) : Option String :=
  (fileName? path).bind fun name =>
    let pieces := Text.splitOn '.' name.toList
    if pieces.length < 2 || Text.join ['.'] pieces.dropLast = [] then none
    else pieces.getLast?.map String.ofList

end DesignTokens.Path

import DesignTokens.Stage.Basic

/-!
# Images with two appearances

An image is made from a file and perhaps a dark file, and is named after the first. `Image.combine`
pairs files whose names are the same identifier.
-/

set_option autoImplicit false

namespace DesignTokens

/-- An image: its name and the paths of its files. -/
structure Image where
  name : String
  any : String
  dark : Option String
deriving DecidableEq, Repr

instance : Named Image where
  name := Image.name
  rename image name := { image with name }

namespace Image

/-- A file name with the extension of a source file. -/
def fileNameOf (stem source : String) : String :=
  match Path.extension? source with
  | some extension => stem ++ "." ++ extension
  | none => stem

/-- The name of the light file inside the image set. -/
def file (image : Image) : String :=
  fileNameOf image.name image.any

/-- The name of the dark file inside the image set. -/
def darkFile (image : Image) : Option String :=
  image.dark.map (fileNameOf (image.name ++ "Dark"))

/-- The name of the image set's folder. -/
def imageset (image : Image) : String :=
  image.name ++ ".imageset"

/-- Pairs each light file with the dark file of its name that is still there. -/
def pair (dark : List (String × String)) : List String → List Image
  | [] => []
  | path :: paths =>
    let name := camelCaseFileName path
    -- a dark file shows in one image only
    ⟨name, path, dark.lookup name⟩ :: pair (Keyed.erase name dark) paths

/-- The images of light and dark files. Of several dark files of one name the last counts; a dark
file without a light one is left out. -/
def combine (any dark : List String) : List Image :=
  pair (Keyed.ofList (dark.map fun path => (camelCaseFileName path, path))) any

/-- The stages of an image catalog. -/
def stages : List (Stage Image) :=
  [Stage.addPrefix, Stage.addSuffix]

end Image

end DesignTokens

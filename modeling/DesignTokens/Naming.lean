import DesignTokens.Files.Path
import DesignTokens.Text.Case
import DesignTokens.Text.Split

/-!
# Names

The camelCase rule turns free-form names ("20 Seconds Back filled", "hello-world.svg") into
identifiers for assets and generated code. A `Named` item carries such a name and can be renamed.
-/

set_option autoImplicit false

namespace DesignTokens

/-- The text with its first character in uppercase. -/
def upperFirst (text : String) : String :=
  String.ofList (Text.upperFirst text.toList)

/-- The text with its first character in lowercase. -/
def lowerFirst (text : String) : String :=
  String.ofList (Text.lowerFirst text.toList)

namespace Naming

/-- The characters that separate the words of a name, in the order in which names are cut at
them. -/
def separators : List Char :=
  [' ', '-', '_', '/', '\\', '.', ',']

/-- Cuts a text at a separator, drops empty pieces, capitalizes the others and puts spaces between
them. -/
def capitalizePieces (text : List Char) (separator : Char) : List Char :=
  Text.join [' '] (((Text.splitOn separator text).filter (!·.isEmpty)).map Text.upperFirst)

/-- The camelCase rule on characters: the pieces between separators are capitalized, for one
separator after the other, then all blanks go and the first character becomes lowercase. -/
def camelCaseText (text : List Char) : List Char :=
  Text.lowerFirst ((separators.foldl capitalizePieces text).filter (!Text.isBlank ·))

end Naming

/-- The camelCase form of a name. -/
def camelCase (name : String) : String :=
  String.ofList (Naming.camelCaseText name.toList)

/-- The name of a file as an identifier: the last component of the path without its final
extension, in camelCase. -/
def camelCaseFileName (path : String) : String :=
  let pieces := Text.splitOn '.' ((Path.fileName? path).getD "").toList
  -- a name without a point has no extension to lose
  let kept := if 1 < pieces.length then pieces.dropLast else pieces
  String.ofList (Naming.camelCaseText (Text.join [' '] kept))

/-- Items that have a name. -/
class Named (α : Type) where
  /-- The name of an item. -/
  name : α → String
  /-- The same item under another name. -/
  rename : α → String → α

end DesignTokens

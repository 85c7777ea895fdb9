import DesignTokens.Stage.Sort
import DesignTokens.Template.Fault
import DesignTokens.Text.EditDistance
import DesignTokens.Text.Split

/-!
# Suggestions for unknown names

A fault that says that a variable was not found gets a line with the names of the context that come
close to its first name: at most three, the closest first, each as far away as half the size of the
name at most.
-/

set_option autoImplicit false

namespace DesignTokens.Template

/-- The character that stands around paths in messages. -/
def pathQuote : Char := Char.ofNat 96

/-- The path that a message says was not found. -/
def unknownPath? : (message : List Char) → Option (List Char)
  | [] => none
  | c :: rest =>
    let here : Option (List Char) := do
      let after ← Text.dropStart? "Variable `".toList (c :: rest)
      let path := after.takeWhile (· ≠ pathQuote)
      discard (Text.dropStart? "` not found".toList (after.dropWhile (· ≠ pathQuote)))
      if path.isEmpty then none else some path
    -- the first place with all of this counts
    here <|> unknownPath? rest

/-- The first name of a path: what comes before its first point. -/
def rootName (path : List Char) : List Char :=
  path.takeWhile (· ≠ '.')

/-- The size of a text in bytes. -/
def byteSize (text : List Char) : Nat :=
  (String.ofList text).utf8ByteSize

/-- How far a name may be from an unknown name to be suggested. -/
def tolerance (unknown : List Char) : Nat :=
  byteSize unknown * 50 / 100

/-- The names that come close to an unknown one, the closest first. -/
def similarNames (unknown : List Char) (names : List String) : List String :=
  let scored := names.map fun name => (name, Text.editDistance unknown name.toList)
  -- the sort is stable, so names at one distance keep the order of the context
  let close := (Stage.sortBy (fun a b => a.2 < b.2) scored).filter fun (name, distance) =>
    name.toList ≠ unknown && distance ≤ tolerance unknown
  (close.take 3).map (·.1)

/-- The message with the names that might be meant, if there are any. -/
def withSuggestion (names : List String) (message : String) : String :=
  match unknownPath? message.toList with
  | none => message
  | some path =>
    match similarNames (rootName path) names with
    | [] => message
    | similar => message ++ "\n  Did you mean: " ++ ", ".intercalate similar ++ "?"

end DesignTokens.Template

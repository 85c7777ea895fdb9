import DesignTokens.Config.Key
import DesignTokens.Files.Action
import DesignTokens.Token.Document

/-!
# Generators

A generator turns what a section of a configuration holds into files. It checks the outer shape of
the section first and gives an action; the action may fail half-way, and the files that it wrote
until then stay.
-/

set_option autoImplicit false

namespace DesignTokens

/-- What is generated from: a token document, and the directory that all paths start from. -/
structure Project where
  token : DesignToken
  directory : String

/-- Checks what a section holds and gives the action that generates it. -/
abbrev Generator := (project : Project) → (content : Value) → Except Problem (Action Unit)

/-- The mappings of a list that holds nothing else; `key` names the list in the problem. -/
def specList (key : String) (content : Value) : Except Problem (List Value) :=
  match content with
  | .array items =>
    if items.all Value.isObject then .ok items else .error (.invalidConfigEntry key)
  | _ => .error (.invalidConfigEntry key)

namespace Generator

/-- The generator of a list of mappings, one after the other. -/
def ofEntries (key : String) (generate : Project → Value → Action Unit) : Generator :=
  fun project content => (specList key content).map fun entries => entries.forM (generate project)

end Generator

/-- The list under a key of an entry. -/
def listUnder (key : String) (entry : Value) : Except Problem (List Value) :=
  match entry.get? key with
  | some (.array items) => .ok items
  | _ => .error (.invalidConfigEntry key)

end DesignTokens

import DesignTokens.Config.Key
import DesignTokens.Naming

/-!
# Stages

A stage turns a list of items into another, guided by the options under the `process` key of a
configuration entry. A pipeline runs stages in order. The two stages here rename every item.
-/

set_option autoImplicit false

namespace DesignTokens

/-- A step of processing under some options. -/
abbrev Stage (α : Type) := (options : Option Value) → List α → List α

namespace Stage

/-- The options of an entry: the mapping under `process`, if it is one. -/
def options? (entry : Option Value) : Option Value :=
  (Key.process.raw? entry).filter (·.isObject)

/-- Runs the stages in order with the options of the entry. -/
def run {α : Type} (stages : List (Stage α)) (entry : Option Value) (items : List α) : List α :=
  stages.foldl (fun items stage => stage (options? entry) items) items

/-- Puts the option `addPrefix` before every name, whose first letter is capitalized. Without the
option nothing changes. -/
def addPrefix {α : Type} [Named α] : Stage α := fun options items =>
  match Key.addPrefix.optional? Shape.string options with
  | none => items
  | some start => items.map fun item => Named.rename item (start ++ upperFirst (Named.name item))

/-- Puts the option `addSuffix` after every name. Without the option nothing changes. -/
def addSuffix {α : Type} [Named α] : Stage α := fun options items =>
  match Key.addSuffix.optional? Shape.string options with
  | none => items
  | some ending => items.map fun item => Named.rename item (Named.name item ++ ending)

end Stage

end DesignTokens

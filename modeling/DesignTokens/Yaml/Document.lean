import DesignTokens.Yaml.Node
import DesignTokens.Yaml.Schema

/-!
# Documents as values

`Yaml.decode` reads a text as one document and builds its value. Collections nest at most
`maxDepth` deep, and references are followed at most `jumpsPerNode` times for each node of the
document, so that short texts cannot stand for endless values. Keys are the texts of scalars.
-/

set_option autoImplicit false

namespace DesignTokens.Yaml

/-- How deep collections may nest. -/
def maxDepth : Nat := 128

/-- How many references may be followed for each node. -/
def jumpsPerNode : Nat := 100

/-- Building a value; the state is how many references may still be followed. -/
abbrev Building := StateT Nat (Except YamlFault)

namespace Building

/-- The node that stands for itself: a reference is followed. -/
def settle (anchors : List (Nat × Node)) : Node → Building Node
  | .anchored _ node => pure node
  | .reference number => do
    match ← get with
    | 0 => throw .tooManyReferences
    | jumps + 1 =>
      set jumps
      match anchors.lookup number with
      | some node => return node
      | none => throw .unknownAnchor
  | node => pure node

/-- The text of a key. -/
def key (anchors : List (Nat × Node)) (node : Node) : Building String := do
  match ← settle anchors node with
  | .scalar text _ _ => return String.ofList text
  | _ => throw .keyNotScalar

/-- Fails for a collection with a tag of its own. -/
def checkTag (tag : Option (List Char)) : Building Unit := do
  if (tag.bind List.head?) = some '!' then throw .unsupportedTag

/-- The value of a node; `inner` builds what is inside a collection. -/
def valueWith (anchors : List (Nat × Node)) (inner : Node → Building Value) (node : Node) :
    Building Value := do
  match ← settle anchors node with
  | .scalar text tag plain => scalarValue text tag plain
  | .sequence tag items => do
    checkTag tag
    return .array (← items.mapM inner)
  | .mapping tag pairs => do
    checkTag tag
    return .object (← pairs.mapM fun (name, node) => do
      return (← key anchors name, ← inner node))
  | .reference _ | .anchored _ _ => throw .unknownAnchor

/-- The value of a scalar where no collection may stand. -/
def scalarOnly (anchors : List (Nat × Node)) (node : Node) : Building Value := do
  match ← settle anchors node with
  | .scalar text tag plain => scalarValue text tag plain
  | _ => throw .tooDeep

/-- The value of a node whose collections nest at most `depth` deep. -/
def value (anchors : List (Nat × Node)) : (depth : Nat) → Node → Building Value
  | 0 => scalarOnly anchors
  | depth + 1 => valueWith anchors (value anchors depth)

end Building

/-- The value of a document. -/
def Node.toValue (root : Node) : Except YamlFault Value := do
  let build := Building.value root.anchors.reverse maxDepth root
  let (value, _) ← build.run (jumpsPerNode * root.size)
  return value.canonical

/-- Reads a text as a document. -/
def decode (text : String) : Except YamlFault Value := do
  (← Node.ofTokens (← scan text.toList)).toValue

end DesignTokens.Yaml

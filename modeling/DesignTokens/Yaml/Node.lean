import DesignTokens.Yaml.Scan

/-!
# Nodes of a document

`Node.ofTokens` reads the tree of a document. References stay in the tree; they name a node by a
number. An anchor gets as its number how many different anchor names came before it, so a name that
is used again makes a number that the next new name gets as well; of the nodes with one number the
last to start counts.
-/

set_option autoImplicit false

namespace DesignTokens.Yaml

/-- A node. Scalars know whether they are plain; a tag is in full. -/
inductive Node where
  | scalar (text : List Char) (tag : Option (List Char)) (plain : Bool)
  | sequence (tag : Option (List Char)) (items : List Node)
  | mapping (tag : Option (List Char)) (pairs : List (Node × Node))
  | reference (number : Nat)
  | anchored (number : Nat) (node : Node)

namespace Node

/-- The node of nothing. -/
def empty : Node := .scalar [] none true

mutual

/-- How many scalars, references and starts and ends of collections a node consists of. -/
def size : Node → Nat
  | .scalar _ _ _ => 1
  | .sequence _ items => 2 + sizeAll items
  | .mapping _ pairs => 2 + sizePairs pairs
  | .reference _ => 1
  | .anchored _ node => size node

/-- The sizes of a list of nodes. -/
def sizeAll : List Node → Nat
  | [] => 0
  | node :: nodes => size node + sizeAll nodes

/-- The sizes of the keys and values of a mapping. -/
def sizePairs : List (Node × Node) → Nat
  | [] => 0
  | (key, value) :: pairs => size key + (size value + sizePairs pairs)

end

mutual

/-- The nodes with anchors in a node, in the order in which they start. -/
def anchors : Node → List (Nat × Node)
  | .scalar _ _ _ => []
  | .sequence _ items => anchorsAll items
  | .mapping _ pairs => anchorsPairs pairs
  | .reference _ => []
  | .anchored number node => (number, node) :: anchors node

/-- The nodes with anchors in a list of nodes. -/
def anchorsAll : List Node → List (Nat × Node)
  | [] => []
  | node :: nodes => anchors node ++ anchorsAll nodes

/-- The nodes with anchors in the keys and values of a mapping. -/
def anchorsPairs : List (Node × Node) → List (Nat × Node)
  | [] => []
  | (key, value) :: pairs => anchors key ++ (anchors value ++ anchorsPairs pairs)

end

end Node

/-! ### Reading nodes -/

/-- What reading nodes depends on: the tokens ahead, the numbers of the anchor names so far, and
what the handles of tags stand for. -/
structure Outlook where
  tokens : List Token
  numbers : List (List Char × Nat)
  handles : List (List Char × List Char)

/-- A step of reading nodes. -/
abbrev Reading := StateT Outlook (Except YamlFault)

namespace Reading

/-- The next token. -/
def peek : Reading (Option Token) := do
  return (← get).tokens.head?

/-- Leaves the next token behind. -/
def skip : Reading Unit :=
  modify fun outlook => { outlook with tokens := outlook.tokens.drop 1 }

/-- Leaves the next token behind if it is the given one. -/
def accept (token : Token) : Reading Bool := do
  if (← peek) = some token then
    skip
    return true
  return false

/-- Whether the next token is one of the given ones. -/
def meets (tokens : List Token) : Reading Bool := do
  return (← peek).any tokens.contains

/-- Gives an anchor its number. -/
def define (name : List Char) : Reading Nat := do
  let outlook ← get
  let number := outlook.numbers.length
  set { outlook with
    numbers := (name, number) :: outlook.numbers.filter fun entry => entry.1 ≠ name }
  return number

/-- The full tag of a handle and a suffix. -/
def expand (handle suffix : List Char) : Reading (List Char) := do
  if handle.isEmpty then return suffix
  match (← get).handles.lookup handle with
  | some start => return start ++ suffix
  | none => throw .undeclaredHandle

/-- Reads an anchor, if there is one. -/
def anchor? : Reading (Option (List Char)) := do
  match ← peek with
  | some (.anchor name) =>
    skip
    return some name
  | _ => return none

/-- Reads a tag, if there is one. -/
def tag? : Reading (Option (List Char)) := do
  match ← peek with
  | some (.tag handle suffix) =>
    skip
    return some (← expand handle suffix)
  | _ => return none

/-- Reads an anchor and a tag, which may come in either order. -/
def properties : Reading (Option (List Char) × Option (List Char)) := do
  match ← anchor? with
  | some name => return (some name, ← tag?)
  | none =>
    let tag ← tag?
    if tag.isNone then return (none, none)
    return (← anchor?, tag)

mutual

/-- Reads a node. A `block` may be one of blocks, and an `indentless` one a sequence whose dashes
stand in the column of the surrounding mapping. -/
def node (block indentless : Bool) : (fuel : Nat) → Reading Node
  | 0 => throw .unexpectedToken
  | fuel + 1 => do
    match ← peek with
    | some (.reference name) =>
      skip
      match (← get).numbers.lookup name with
      | some number => return .reference number
      | none => throw .unknownAnchor
    | _ =>
      let (name, tag) ← properties
      match name with
      | none => content block indentless tag.isSome tag fuel
      | some name =>
        let number ← define name
        return .anchored number (← content block indentless true tag fuel)

/-- Reads a node behind its properties. A node with properties may be empty. -/
def content (block indentless mayBeEmpty : Bool) (tag : Option (List Char)) :
    (fuel : Nat) → Reading Node
  | 0 => throw .unexpectedToken
  | fuel + 1 => do
    match ← peek with
    | some (.scalar text plain) =>
      skip
      return .scalar text (tag.filter (· ≠ ['!'])) plain
    | some .flowSequenceStart =>
      skip
      return .sequence tag (← flowItems true fuel)
    | some .flowMappingStart =>
      skip
      return .mapping tag (← flowPairs true fuel)
    | next =>
      if indentless && next = some .blockEntry then
        return .sequence tag (← indentlessItems fuel)
      else if block && next = some .blockSequenceStart then
        skip
        return .sequence tag (← blockItems fuel)
      else if block && next = some .blockMappingStart then
        skip
        return .mapping tag (← blockPairs fuel)
      else if mayBeEmpty then return .scalar [] tag true
      else throw .unexpectedToken

/-- Reads the items of a block up to its end. -/
def blockItems : (fuel : Nat) → Reading (List Node)
  | 0 => throw .unexpectedToken
  | fuel + 1 => do
    if ← accept .blockEntry then
      let item ←
        if ← meets [.blockEntry, .blockEnd] then pure Node.empty else node true false fuel
      return item :: (← blockItems fuel)
    else if ← accept .blockEnd then return []
    else throw .unexpectedToken

/-- Reads items as long as there are dashes. -/
def indentlessItems : (fuel : Nat) → Reading (List Node)
  | 0 => throw .unexpectedToken
  | fuel + 1 => do
    if ← accept .blockEntry then
      let item ←
        if ← meets [.blockEntry, .key, .value, .blockEnd] then pure Node.empty
        else node true false fuel
      return item :: (← indentlessItems fuel)
    else return []

/-- Reads the pairs of a block up to its end. -/
def blockPairs : (fuel : Nat) → Reading (List (Node × Node))
  | 0 => throw .unexpectedToken
  | fuel + 1 => do
    if ← accept .key then
      let key ← blockPart fuel
      let value ← if ← accept .value then blockPart fuel else pure Node.empty
      return (key, value) :: (← blockPairs fuel)
    else if ← accept .blockEnd then return []
    else throw .unexpectedToken

/-- Reads a key or a value of a block, which may be empty. -/
def blockPart : (fuel : Nat) → Reading Node
  | 0 => throw .unexpectedToken
  | fuel + 1 => do
    if ← meets [.key, .value, .blockEnd] then return .empty
    node true true fuel

/-- Reads the items between brackets up to the closing one; a comma comes before all but the
first. -/
def flowItems (first : Bool) : (fuel : Nat) → Reading (List Node)
  | 0 => throw .unexpectedToken
  | fuel + 1 => do
    if ← accept .flowSequenceEnd then return []
    if !first then
      if !(← accept .flowEntry) then throw .missingSeparator
    -- a pair without braces is a mapping of its own
    if ← accept .key then
      let pair ← singlePair fuel
      return .mapping none [pair] :: (← flowItems false fuel)
    -- a comma may stand before the closing bracket
    if ← accept .flowSequenceEnd then return []
    let item ← node false false fuel
    return item :: (← flowItems false fuel)

/-- Reads a pair that stands as an item between brackets. The token behind a missing key is left
behind with it. -/
def singlePair : (fuel : Nat) → Reading (Node × Node)
  | 0 => throw .unexpectedToken
  | fuel + 1 => do
    let key ←
      if ← meets [.value, .flowEntry, .flowSequenceEnd] then
        skip
        pure Node.empty
      else node false false fuel
    if ← accept .value then
      if ← meets [.flowEntry, .flowSequenceEnd] then return (key, .empty)
      return (key, ← node false false fuel)
    return (key, .empty)

/-- Reads the pairs between braces up to the closing one; a comma comes before all but the first. A
key without an indicator has no value. -/
def flowPairs (first : Bool) : (fuel : Nat) → Reading (List (Node × Node))
  | 0 => throw .unexpectedToken
  | fuel + 1 => do
    if ← accept .flowMappingEnd then return []
    if !first then
      if !(← accept .flowEntry) then throw .missingSeparator
    if ← accept .key then
      let key ←
        if ← meets [.value, .flowEntry, .flowMappingEnd] then pure Node.empty
        else node false false fuel
      let value ← flowValue fuel
      return (key, value) :: (← flowPairs false fuel)
    -- a comma may stand before the closing brace
    if ← accept .flowMappingEnd then return []
    let key ← node false false fuel
    return (key, .empty) :: (← flowPairs false fuel)

/-- Reads the value behind a key between braces. -/
def flowValue : (fuel : Nat) → Reading Node
  | 0 => throw .unexpectedToken
  | fuel + 1 => do
    if ← accept .value then
      if ← meets [.flowEntry, .flowMappingEnd] then return .empty
      node false false fuel
    else return .empty

end

/-! ### Reading documents -/

/-- What handles stand for unless a directive says otherwise. -/
def defaultHandles : List (List Char × List Char) :=
  [(['!'], ['!']), (['!', '!'], "tag:yaml.org,2002:".toList)]

/-- Reads directives up to the mark that starts a document. -/
def directives (versioned : Bool) : List Token → Reading Unit
  | .versionDirective major minor :: rest => do
    if versioned then throw .repeatedDirective
    if major ≠ 1 ∨ (minor ≠ 1 ∧ minor ≠ 2) then throw .unsupportedVersion
    directives true rest
  | .tagDirective handle start :: rest => do
    if ((← get).handles.lookup handle).isSome then throw .repeatedDirective
    modify fun outlook => { outlook with handles := outlook.handles ++ [(handle, start)] }
    directives versioned rest
  | .documentStart :: rest => modify fun outlook => { outlook with tokens := rest }
  | _ => throw .missingDocumentStart

/-- Whether a document that starts with this token starts with a mark or with directives. -/
def isExplicit : Token → Bool
  | .versionDirective _ _ | .tagDirective _ _ | .documentStart => true
  | _ => false

/-- Whether a document is empty that has this token behind its start. -/
def endsDocument (token : Token) : Bool :=
  isExplicit token || token = .documentEnd

/-- Reads the only document of a text. -/
def document : Reading Node := do
  let tokens := (← get).tokens
  let explicit := tokens.head?.any isExplicit
  if explicit then directives false tokens
  modify fun outlook => { outlook with handles := outlook.handles ++ defaultHandles }
  -- at most three readers call each other before one of them leaves a token behind
  let fuel := 3 * tokens.length + 3
  let root ←
    match ← peek with
    | none => pure Node.empty
    | some token =>
      if explicit && endsDocument token then pure Node.empty else node true false fuel
  if ((← get).tokens.dropWhile (· = Token.documentEnd)).isEmpty then return root
  throw .severalDocuments

end Reading

namespace Node

/-- The tree of a document. -/
def ofTokens (tokens : List Token) : Except YamlFault Node := do
  return (← Reading.document.run ⟨tokens, [], []⟩).1

end Node

end DesignTokens.Yaml

import DesignTokens.Keyed
import DesignTokens.Number.Digits
import DesignTokens.Template.Fault
import DesignTokens.Text.Split
import DesignTokens.Value.Encode

/-!
# Looking up variables

A `Scope` holds what names mean: what loops around give them, what has been assigned, and the
context. A path is looked up by its first name and then key by key. Brackets in a path hold an
index, which may be a path itself; it is replaced by its value first. One path, `Scope.dumpPath`,
means the JSON text of everything that has a name.
-/

set_option autoImplicit false

namespace DesignTokens.Template

/-- A loop that is running. -/
structure Loop where
  /-- The name of the key, with the key. -/
  key : Option (String × String)
  valueName : String
  value : Value
  index : Nat
  count : Nat
  /-- What has been assigned since the item was begun. -/
  assigned : Members

/-- What names mean. -/
structure Scope where
  /-- The running loops, the innermost first. -/
  loops : List Loop
  /-- What has been assigned outside the loops. -/
  assigned : Members
  context : Members
  /-- Whether this is the body of a snippet, in which the dump leaves the context out. -/
  isolated : Bool

/-! ### Keys -/

/-- The keys of a path: the pieces between points, except that quotes keep a key in one piece.
`current` is the piece so far, last character first. -/
def splitKeys (quoted : Bool) (current : List Char) : List Char → List (List Char)
  | [] => if current.isEmpty then [] else [current.reverse]
  | c :: rest =>
    if quoted then
      if c = '"' then current.reverse :: splitKeys false [] rest
      else splitKeys true (c :: current) rest
    -- empty pieces count in quotes only
    else if c = '.' || c = '[' || c = ']' then
      if current.isEmpty then splitKeys false [] rest
      else current.reverse :: splitKeys false [] rest
    else if c = '"' then
      if current.isEmpty then splitKeys true [] rest
      else current.reverse :: splitKeys true [] rest
    else splitKeys false (c :: current) rest

/-- The key that a piece of a path writes, in which slashes and tildes are escaped. -/
def plainKey (piece : List Char) : String :=
  -- slashes come first, or `~01` would become one
  String.ofList (Text.replace ['~', '0'] ['~'] (Text.replace ['~', '1'] ['/'] piece))

/-- The index that a key writes. -/
def index? (key : String) : Option Nat :=
  match key.toList with
  | [] => none
  -- a leading zero makes no index
  | '0' :: _ :: _ => none
  | digits => readDigits? 10 digits

/-- What a key leads to inside a value. -/
def step? (value : Value) (key : String) : Option Value :=
  match value with
  | .object members => members.lookup key
  | .array items => (index? key).bind (items[·]?)
  | _ => none

/-- What a path leads to inside a value. -/
def Value.follow? (value : Value) (path : List Char) : Option Value :=
  ((splitKeys false [] path).map plainKey).foldlM step? value

/-- Splits a path at its first point. -/
def splitPath (path : List Char) : List Char × Option (List Char) :=
  match path.dropWhile (· ≠ '.') with
  | [] => (path, none)
  | _ :: tail => (path.takeWhile (· ≠ '.'), some tail)

/-- What a path leads to among members. -/
def lookup? (members : Members) (path : List Char) : Option Value :=
  match splitPath path with
  | (name, none) => members.lookup (String.ofList name)
  | (name, some tail) =>
    (members.lookup (String.ofList name)).bind (Value.follow? · tail)

namespace Loop

/-- What the name `loop` tells about a loop. -/
def counter? (loop : Loop) (path : String) : Option Value :=
  if path = "loop.index" then some (.number (.integer (loop.index + 1)))
  else if path = "loop.index0" then some (.number (.integer loop.index))
  else if path = "loop.first" then some (.bool (loop.index = 0))
  else if path = "loop.last" then some (.bool (loop.index + 1 = loop.count))
  else none

/-- What a path means by the names of a loop itself. -/
def item? (loop : Loop) (path : List Char) : Option Value :=
  match splitPath path with
  | (name, tail) =>
    if String.ofList name = loop.valueName then
      match tail with
      | none => some loop.value
      | some tail => Value.follow? loop.value tail
    else
      match loop.key, tail with
      -- a key is a text, so a longer path leads nowhere
      | some (keyName, key), none =>
        if String.ofList name = keyName then some (.string key) else none
      | _, _ => none

/-- What a path means inside a loop. -/
def find? (loop : Loop) (path : List Char) : Option Value :=
  -- what was assigned hides the counter and the item
  lookup? loop.assigned path <|> loop.counter? (String.ofList path) <|> loop.item? path

/-- The names that a loop gives a meaning, the later of two with one name being the one that counts
in a dump: what was assigned, from the oldest on, the item and its key. -/
def given (loop : Loop) : Members :=
  loop.assigned.reverse ++ (loop.valueName, loop.value) ::
    loop.key.toList.map fun (name, key) => (name, .string key)

end Loop

namespace Scope

/-- What a path without brackets means. -/
def find? (scope : Scope) (path : List Char) : Option Value :=
  -- inner loops hide outer ones, and all loops hide what stands around them
  scope.loops.findSome? (·.find? path) <|> lookup? scope.assigned path <|>
    lookup? scope.context path

/-! ### Brackets -/

/-- The text of the bracket that was opened, `level` deep, up to where it is closed; `reversed` is
what was read of it. -/
def bracketText (level : Nat) (reversed : List Char) : List Char → List Char
  | [] => reversed.reverse
  | c :: rest =>
    if c = ']' then
      match level with
      | 0 => reversed.reverse
      | level + 1 => bracketText level (c :: reversed) rest
    else if c = '[' then bracketText (level + 1) (c :: reversed) rest
    else bracketText level (c :: reversed) rest

/-- The texts in brackets that have to be evaluated: neither strings nor natural numbers. The first
`skip` characters belong to a bracket that was seen. -/
def indices (skip : Nat) : List Char → List (List Char)
  | [] => []
  | c :: rest =>
    match skip with
    | skip + 1 => indices skip rest
    | 0 =>
      if c = '[' then
        match rest with
        | [] => []
        | first :: _ =>
          -- a string is a key as it stands, and so is a natural number
          if first = '"' || first = '\'' then indices 1 rest
          else
            let inside := bracketText 0 [] rest
            let later := indices (inside.length + 1) rest
            if !inside.isEmpty && inside.all Char.isDigit then later else inside :: later
      else indices 0 rest

/-- The text with the first occurrence of a part replaced. -/
def replaceFirst (old new : List Char) : List Char → List Char
  | [] => []
  | c :: rest =>
    match Text.dropStart? old (c :: rest) with
    | some after => new ++ after
    | none => c :: replaceFirst old new rest

/-- The path with points instead of brackets, in which only strings keep their quotes. -/
def withoutBrackets (path : List Char) : List Char :=
  [(['/'], ['~', '1']), (['[', '\''], ['.', '"']), (['[', '"'], ['.', '"']), (['['], ['.']),
    (['\'', ']'], ['"']), (['"', ']'], ['"']), ([']'], [])].foldl
    (fun text (old, new) => Text.replace old new text) path

/-- The text of an index that is a value. -/
def indexText? : Value → Option (List Char)
  | .string s => some ('"' :: (s.toList ++ ['"']))
  | .number n => some n.encode
  | _ => none

/-- The path with the indices of its brackets evaluated by `resolve`. -/
def evaluated (resolve : List Char → Except TemplateFault Value) (path : List Char) :
    Except TemplateFault (List Char) := do
  let full ← (indices 0 path).foldlM (fun text index =>
    match resolve index with
    | .error cause => .error (.unknownIndex (String.ofList path) cause)
    | .ok value =>
      match indexText? value with
      | none => .error (.unusableIndex (String.ofList index) (String.ofList path))
      | some shown =>
        .ok (replaceFirst ('[' :: (index ++ [']'])) ('.' :: shown) text)) path
  return withoutBrackets full

/-- What a path means whose brackets nest less than `depth` deep. -/
def resolveWithin (scope : Scope) : (depth : Nat) → List Char → Except TemplateFault Value
  | 0, path => .error (.unknownVariable (String.ofList path))
  | depth + 1, path =>
    -- a path in brackets has fewer brackets than the one around it
    if path.contains '[' then
      match evaluated (resolveWithin scope depth) path with
      | .error fault => .error fault
      | .ok full =>
        match scope.find? full with
        | some value => .ok value
        | none => .error (.unknownElement (String.ofList path) (String.ofList full))
    else
      match scope.find? path with
      | some value => .ok value
      | none => .error (.unknownVariable (String.ofList path))

/-! ### Everything at once -/

/-- The path that means everything that has a name. -/
def dumpPath : String := "__tera_context"

/-- Everything that has a name, except for the counters of loops. In a dump, unlike in a lookup,
outer loops hide inner ones, and the context of a template does not show in the body of a
snippet. -/
def visible (scope : Scope) : Members :=
  Keyed.ofList ((if scope.isolated then [] else scope.context) ++
    (scope.loops.flatMap Loop.given ++ scope.assigned.reverse))

/-- What a path means. -/
def resolve (scope : Scope) (path : String) : Except TemplateFault Value :=
  -- a path that only contains the name of the dump is a path like others
  if path = dumpPath then .ok (.string (String.ofList (Value.object scope.visible).encodeIndented))
  else scope.resolveWithin (path.toList.length + 1) path.toList

/-! ### Assignments -/

/-- Gives a name a value inside the innermost loop. -/
def assign (scope : Scope) (name : String) (value : Value) : Scope :=
  match scope.loops with
  | [] => { scope with assigned := (name, value) :: scope.assigned }
  | loop :: outer =>
    { scope with loops := { loop with assigned := (name, value) :: loop.assigned } :: outer }

/-- Gives a name a value outside all loops. -/
def assignShared (scope : Scope) (name : String) (value : Value) : Scope :=
  { scope with assigned := (name, value) :: scope.assigned }

end Scope

end DesignTokens.Template

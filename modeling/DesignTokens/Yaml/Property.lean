import DesignTokens.Yaml.Scalar
import DesignTokens.Yaml.Token

/-!
# Properties and directives

How anchors, references, tags and directives are read. Each reader starts at the indicator and
returns a token with the cursor behind it.
-/

set_option autoImplicit false

namespace DesignTokens.Yaml

/-- Whether a character may stand in the name of an anchor, a directive or a handle. -/
def isWordChar (c : Char) : Bool :=
  c.isAlphanum || c = '-' || c = '_'

/-- The characters besides those of words that stand in a tag. -/
def tagSigns : List Char :=
  [';', '/', '?', ':', '@', '&', '=', '+', '$', '.', '!', '~', '*', '\'', '(', ')']

/-- Whether a character other than the percent sign may stand in a tag, which may be `wide`. -/
def isTagChar (wide : Bool) (c : Char) : Bool :=
  isWordChar c || tagSigns.contains c || (wide && (c = ',' || c = '[' || c = ']'))

/-! ### Anchors -/

/-- Reads the name behind `&` or `*`. -/
def readAnchor (cursor : Cursor) : Except YamlFault (List Char × Cursor) :=
  let (name, next) := (cursor.skip 1).span isWordChar
  let ends := startsSpacing next.rest ||
    next.rest.head?.any fun c => ['?', ':', ',', ']', '}', '%', '@', (Char.ofNat 96)].contains c
  if name.isEmpty || !ends then .error .malformedAnchor else .ok (name, next)

/-! ### Tags -/

/-- The byte that a percent sign and two hexadecimal digits write. -/
def percentByte? : List Char → Option (Nat × List Char)
  | '%' :: a :: b :: rest => do return (← readDigits? 16 [a, b], rest)
  | _ => none

/-- The number that continues `high` with six bits of each of the next bytes. -/
def continuation? (high : Nat) : (count : Nat) → List Char → Option (Nat × List Char)
  | 0, text => some (high, text)
  | count + 1, text => do
    let (byte, rest) ← percentByte? text
    if byte / 64 = 2 then continuation? (high * 64 + byte % 64) count rest else none

/-- The character that percent signs write byte by byte. -/
def percentChar? (text : List Char) : Option (Char × List Char) := do
  let (byte, rest) ← percentByte? text
  let (code, rest) ←
    if byte < 0x80 then some (byte, rest)
    else if byte / 32 = 6 then continuation? (byte % 32) 1 rest
    else if byte / 16 = 14 then continuation? (byte % 16) 2 rest
    else if byte / 8 = 30 then continuation? (byte % 8) 3 rest
    else none
  return (← charOf? code, rest)

/-- Reads the longest run of characters of a tag. -/
def readTagText (wide : Bool) : (fuel : Nat) → (reversed : List Char) → Cursor →
    Except YamlFault (List Char × Cursor)
  | 0, reversed, cursor => .ok (reversed.reverse, cursor)
  | fuel + 1, reversed, cursor =>
    match cursor.rest with
    | [] => .ok (reversed.reverse, cursor)
    | c :: _ =>
      if c = '%' then
        match percentChar? cursor.rest with
        | some (written, rest) =>
          readTagText wide fuel (written :: reversed)
            (cursor.skip (cursor.rest.length - rest.length))
        | none => .error .malformedTag
      else if isTagChar wide c then readTagText wide fuel (c :: reversed) (cursor.skip 1)
      else .ok (reversed.reverse, cursor)

/-- Reads a run of characters of a tag, which may not be empty. -/
def readTagPart (wide : Bool) (cursor : Cursor) : Except YamlFault (List Char × Cursor) := do
  let (text, next) ← readTagText wide cursor.rest.length [] cursor
  if text.isEmpty then throw .malformedTag
  return (text, next)

/-- Reads a handle: an exclamation mark, and word characters up to another one if that follows. -/
def readHandle (cursor : Cursor) : Except YamlFault (List Char × Cursor) :=
  if cursor.rest.head? ≠ some '!' then .error .malformedTag
  else
    let (name, next) := (cursor.skip 1).span isWordChar
    if next.rest.head? = some '!' then .ok ('!' :: (name ++ ['!']), next.skip 1)
    else .ok ('!' :: name, next)

/-- Reads a tag without looking at what follows it. The tag `!` has an empty handle, and so has a
tag between angle brackets. -/
def readTagForm (cursor : Cursor) : Except YamlFault (Token × Cursor) := do
  if (cursor.rest.drop 1).head? = some '<' then
    let (text, next) ← readTagPart true (cursor.skip 2)
    if next.rest.head? ≠ some '>' then throw .malformedTag
    return (.tag [] text, next.skip 1)
  let (handle, next) ← readHandle cursor
  if 1 < handle.length ∧ handle.getLast? = some '!' then
    let (suffix, next) ← readTagPart false next
    return (.tag handle suffix, next)
  let (more, next) ← readTagText false next.rest.length [] next
  match handle.drop 1 ++ more with
  | [] => return (.tag [] ['!'], next)
  | suffix => return (.tag ['!'] suffix, next)

/-- Reads a tag. White space must follow it, or a comma inside brackets. -/
def readTag (flow : Bool) (cursor : Cursor) : Except YamlFault (Token × Cursor) := do
  let (token, next) ← readTagForm cursor
  if startsSpacing next.rest || (flow && next.rest.head? = some ',') then return (token, next)
  throw .malformedTag

/-! ### Directives -/

/-- Reads a number of at most nine digits. -/
def readVersionNumber (cursor : Cursor) : Except YamlFault (Nat × Cursor) :=
  let (digits, next) := cursor.span Char.isDigit
  match if digits.length ≤ 9 then readDigits? 10 digits else none with
  | some number => .ok (number, next)
  | none => .error .malformedDirective

/-- Reads the version behind `%YAML`. -/
def readVersion (cursor : Cursor) : Except YamlFault (Token × Cursor) := do
  let (major, next) ← readVersionNumber cursor.skipBlanks
  if next.rest.head? ≠ some '.' then throw .malformedDirective
  let (minor, next) ← readVersionNumber (next.skip 1)
  return (.versionDirective major minor, next)

/-- Reads the handle and what it stands for behind `%TAG`. -/
def readHandleMeaning (cursor : Cursor) : Except YamlFault (Token × Cursor) := do
  let (handle, next) ← readHandle cursor.skipBlanks
  if handle ≠ ['!'] ∧ (handle.length < 2 ∨ handle.getLast? ≠ some '!') then
    throw .malformedDirective
  if !(next.rest.head?.any isBlank) then throw .malformedDirective
  let (start, next) ← readTagPart true next.skipBlanks
  if !startsSpacing next.rest then throw .malformedDirective
  return (.tagDirective handle start, next)

/-- Skips what may follow on a line: blanks and a comment. -/
def skipRestOfLine (cursor : Cursor) : Except YamlFault Cursor :=
  let cursor := cursor.skipBlanks
  let cursor := if cursor.rest.head? = some '#' then cursor.skipLine else cursor
  match cursor.rest with
  | [] => .ok cursor
  | c :: _ => if isBreak c then .ok cursor.skipBreak else .error .malformedDirective

/-- Reads a directive with its line end. -/
def readDirective (cursor : Cursor) : Except YamlFault (Token × Cursor) := do
  let (name, next) := (cursor.skip 1).span isWordChar
  if !startsSpacing next.rest then throw .malformedDirective
  let (token, next) ←
    if name = ['Y', 'A', 'M', 'L'] then readVersion next
    else if name = ['T', 'A', 'G'] then readHandleMeaning next
    else throw .malformedDirective
  return (token, ← skipRestOfLine next)

end DesignTokens.Yaml

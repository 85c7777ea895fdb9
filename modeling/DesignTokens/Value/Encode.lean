import DesignTokens.Number.Layout
import DesignTokens.Value.Basic

/-!
# JSON text of a value

`Value.encode` writes a value on one line without spaces, `Value.encodeIndented` with one member or
item a line. Of the characters of a string only the quote, the backslash and the control characters
below the space are escaped.
-/

set_option autoImplicit false

namespace DesignTokens

/-- A hexadecimal digit in lower case. -/
def hexDigit (n : Nat) : Char :=
  if n < 10 then Char.ofNat (48 + n) else Char.ofNat (87 + n)

/-- A character as it stands inside a JSON string. -/
def escapeChar (c : Char) : List Char :=
  if c = '"' then ['\\', '"']
  else if c = '\\' then ['\\', '\\']
  else if c = '\n' then ['\\', 'n']
  else if c = '\r' then ['\\', 'r']
  else if c = '\t' then ['\\', 't']
  else if c.toNat = 8 then ['\\', 'b']
  else if c.toNat = 12 then ['\\', 'f']
  -- the other control characters have no letter of their own
  else if c.toNat < 32 then
    ['\\', 'u', '0', '0', hexDigit (c.toNat / 16), hexDigit (c.toNat % 16)]
  else [c]

/-- A text as a JSON string. -/
def quoteText (text : List Char) : List Char :=
  '"' :: (text.flatMap escapeChar ++ ['"'])

/-- The decimal text of an integer. -/
def integerText (i : Int) : List Char :=
  if i < 0 then '-' :: Nat.toDigits 10 i.natAbs else Nat.toDigits 10 i.natAbs

namespace Number

/-- The JSON text of a number. -/
def encode : Number → List Char
  | .integer i => integerText i
  | .float x => x.exact

end Number

namespace Value

mutual

/-- The JSON text of a value on one line. -/
def encode : Value → List Char
  | .null => ['n', 'u', 'l', 'l']
  | .bool true => ['t', 'r', 'u', 'e']
  | .bool false => ['f', 'a', 'l', 's', 'e']
  | .number n => n.encode
  | .string s => quoteText s.toList
  | .array items => '[' :: encodeItems true items
  | .object members => '{' :: encodeMembers true members

/-- The items of an array up to its closing bracket; a comma comes before all but the first. -/
def encodeItems (first : Bool) : List Value → List Char
  | [] => [']']
  | item :: items =>
    (if first then [] else [',']) ++ (encode item ++ encodeItems false items)

/-- The members of an object up to its closing brace; a comma comes before all but the first. -/
def encodeMembers (first : Bool) : Members → List Char
  | [] => ['}']
  | (key, value) :: members =>
    (if first then [] else [',']) ++
      (quoteText key.toList ++ ':' :: (encode value ++ encodeMembers false members))

end

/-- A new line that is indented by `depth` levels of two spaces. -/
def lineBreak (depth : Nat) : List Char :=
  '\n' :: List.replicate (2 * depth) ' '

mutual

/-- The JSON text of a value at a level of indentation. Empty containers stay on one line. -/
def encodeAt (depth : Nat) : Value → List Char
  | .array [] => ['[', ']']
  | .object [] => ['{', '}']
  | .array (item :: items) =>
    '[' :: (lineBreak (depth + 1) ++ encodeAt (depth + 1) item ++ encodeItemsAt depth items)
  | .object ((key, value) :: members) =>
    '{' :: (lineBreak (depth + 1) ++ quoteText key.toList ++ [':', ' '] ++
      encodeAt (depth + 1) value ++ encodeMembersAt depth members)
  | .null => encode .null
  | .bool b => encode (.bool b)
  | .number n => encode (.number n)
  | .string s => encode (.string s)

/-- The further items of an array, one a line, and its closing bracket. -/
def encodeItemsAt (depth : Nat) : List Value → List Char
  | [] => lineBreak depth ++ [']']
  | item :: items =>
    ',' :: (lineBreak (depth + 1) ++ encodeAt (depth + 1) item ++ encodeItemsAt depth items)

/-- The further members of an object, one a line, and its closing brace. -/
def encodeMembersAt (depth : Nat) : Members → List Char
  | [] => lineBreak depth ++ ['}']
  | (key, value) :: members =>
    ',' :: (lineBreak (depth + 1) ++ quoteText key.toList ++ [':', ' '] ++
      encodeAt (depth + 1) value ++ encodeMembersAt depth members)

end

/-- The JSON text of a value with one item or member a line. -/
def encodeIndented (value : Value) : List Char :=
  encodeAt 0 value

end Value

end DesignTokens

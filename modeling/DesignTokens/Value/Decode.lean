import DesignTokens.Value.Basic

/-!
# Reading JSON

`Value.decode?` reads a value from JSON text, up to a limit on how deep containers may nest. The
value is returned in canonical form.

Numbers without a point or an exponent that fit sixty-four bits are integers; all others become
doubles. The double is computed from the first digits that fit sixty-four bits, scaled by one
rounded power of ten, so its last bit can differ from the nearest double.
-/

set_option autoImplicit false

namespace DesignTokens

/-- Why a text is no JSON document. -/
inductive JsonFault where
  | endOfText
  | unexpected (c : Char)
  | numberOutOfRange
  | malformedNumber
  | controlCharacter
  | malformedEscape
  | loneSurrogate
  | tooDeep
  | trailingText
deriving DecidableEq, Repr

namespace JsonFault

/-- The fault in words. -/
def message : JsonFault → String
  | .endOfText => "unexpected end of the document"
  | .unexpected c => "unexpected character '" ++ c.toString ++ "'"
  | .numberOutOfRange => "number out of range"
  | .malformedNumber => "invalid number"
  | .controlCharacter => "control character inside a string"
  | .malformedEscape => "invalid escape"
  | .loneSurrogate => "lone surrogate in an escape"
  | .tooDeep => "recursion limit exceeded"
  | .trailingText => "trailing characters"

end JsonFault

namespace Json

/-- A step of reading either fails or returns what it read beside the rest of the text. -/
abbrev Step := Except JsonFault

/-- Whether a character may stand between the parts of a document. -/
def isSpace (c : Char) : Bool :=
  c = ' ' || c = '\n' || c = '\t' || c = '\r'

/-- The text without leading spaces. -/
def skipSpace (text : List Char) : List Char :=
  text.dropWhile isSpace

/-- The fault of meeting this text where something else was expected. -/
def unexpected (text : List Char) : JsonFault :=
  match text with
  | [] => .endOfText
  | c :: _ => .unexpected c

/-! ### Numbers -/

/-- The value of a decimal digit. -/
def digitValue (c : Char) : Nat :=
  c.toNat - 48

/-- Takes digits into a number as long as it fits sixty-four bits. -/
def accumulate (number : Nat) : List Char → Nat × List Char
  | [] => (number, [])
  | digit :: rest =>
    if number * 10 + digitValue digit < Nat.pow 2 64 then
      accumulate (number * 10 + digitValue digit) rest
    else (number, digit :: rest)

/-- `f * 10 ^ exponent` by one rounded product or quotient. Quotients by more than `10 ^ 308` are
taken in steps, of which three are enough to reach zero. -/
def scale? (f : Binary64) (exponent : Int) : (steps : Nat) → Option Binary64
  | 0 => some { f with magnitude := 0, magnitude_lt := by decide }
  | steps + 1 =>
    if exponent.natAbs ≤ 308 then do
      let power ← Binary64.ofDecimal? false 1 exponent.natAbs
      if 0 ≤ exponent then f.mul? power else f.div? power
    else if f.isZero then some f
    else if 0 ≤ exponent then none
    else do
      let power ← Binary64.ofDecimal? false 1 308
      scale? (← f.div? power) (exponent + 308) steps

/-- The double of a significand and a power of ten. -/
def toFloat (negative : Bool) (significand : Nat) (exponent : Int) : Except JsonFault Number :=
  match Binary64.ofInt? significand >>= fun f => scale? f exponent 4 with
  | some x => .ok (.float (if negative then x.neg else x))
  | none => .error .numberOutOfRange

/-- Reads the exponent after its mark, if there is one, and finishes the number. An exponent that
does not fit thirty-two bits is out of range, or the number is zero. -/
def readExponent (negative : Bool) (significand : Nat) (exponent : Int) (text : List Char) :
    Step (Number × List Char) := do
  let finish (exponent : Int) (rest : List Char) : Step (Number × List Char) := do
    return (← toFloat negative significand exponent, rest)
  match text with
  | mark :: text =>
    if mark = 'e' || mark = 'E' then
      let (minus, text) :=
        match text with
        | '+' :: text => (false, text)
        | '-' :: text => (true, text)
        | text => (false, text)
      let digits := text.takeWhile Char.isDigit
      let rest := text.dropWhile Char.isDigit
      if digits.isEmpty then throw (unexpected rest)
      let written := digits.foldl (fun n d => n * 10 + digitValue d) 0
      if written < Nat.pow 2 31 then
        finish (if minus then exponent - written else exponent + written) rest
      else if significand ≠ 0 && !minus then throw .numberOutOfRange
      else return (.float { Binary64.zero with negative }, rest)
    else finish exponent (mark :: text)
  | [] => finish exponent []

/-- Reads a number that starts here, after its sign. -/
def readUnsigned (negative : Bool) (text : List Char) : Step (Number × List Char) := do
  let digits := text.takeWhile Char.isDigit
  let text := text.dropWhile Char.isDigit
  if digits.isEmpty then throw (unexpected text)
  if digits.head? = some '0' && 1 < digits.length then throw .malformedNumber
  -- each digit that no longer fits is a factor of ten
  let (significand, excess) := accumulate 0 digits
  match text with
  | '.' :: text =>
    let fraction := text.takeWhile Char.isDigit
    let text := text.dropWhile Char.isDigit
    if fraction.isEmpty then throw (unexpected text)
    let (significand, dropped) := accumulate significand fraction
    -- digits behind the point lower the exponent unless they were dropped
    let exponent : Int := excess.length - (fraction.length - dropped.length : Nat)
    readExponent negative significand exponent text
  | 'e' :: _ | 'E' :: _ => readExponent negative significand excess.length text
  | _ =>
    if !excess.isEmpty then
      return (← toFloat negative significand excess.length, text)
    else if !negative then return (.integer significand, text)
    -- there is no integer minus zero
    else if significand = 0 || Nat.pow 2 63 < significand then
      return (← toFloat true significand 0, text)
    else return (.integer (-(significand : Int)), text)

/-- Reads a number. -/
def readNumber : List Char → Step (Number × List Char)
  | '-' :: text => readUnsigned true text
  | text => readUnsigned false text

/-! ### Strings -/

/-- The value of a hexadecimal digit. -/
def hexValue? (c : Char) : Option Nat :=
  if c.isDigit then some (c.toNat - 48)
  else if 'a' ≤ c ∧ c ≤ 'f' then some (c.toNat - 87)
  else if 'A' ≤ c ∧ c ≤ 'F' then some (c.toNat - 55)
  else none

/-- Reads the four digits of an escape. -/
def readHex4 : List Char → Step (Nat × List Char)
  | a :: b :: c :: d :: rest =>
    match hexValue? a, hexValue? b, hexValue? c, hexValue? d with
    | some a, some b, some c, some d => .ok (((a * 16 + b) * 16 + c) * 16 + d, rest)
    | _, _, _, _ => .error .malformedEscape
  | _ => .error .endOfText

/-- The character of an escape by a single letter. -/
def escapeLetter? (c : Char) : Option Char :=
  match c with
  | '"' => some '"'
  | '\\' => some '\\'
  | '/' => some '/'
  | 'b' => some (Char.ofNat 8)
  | 'f' => some (Char.ofNat 12)
  | 'n' => some '\n'
  | 'r' => some '\r'
  | 't' => some '\t'
  | _ => none

/-- Reads an escape after its backslash. Characters beyond the first plane are written as two
escapes, a high and a low surrogate. -/
def readEscape : List Char → Step (Char × List Char)
  | 'u' :: text => do
    let (unit, text) ← readHex4 text
    if 0xDC00 ≤ unit && unit < 0xE000 then throw .loneSurrogate
    if 0xD800 ≤ unit && unit < 0xDC00 then
      match text with
      | '\\' :: 'u' :: text =>
        let (low, text) ← readHex4 text
        if low < 0xDC00 || 0xE000 ≤ low then throw .loneSurrogate
        return (Char.ofNat (0x10000 + (unit - 0xD800) * 0x400 + (low - 0xDC00)), text)
      | _ => throw .loneSurrogate
    return (Char.ofNat unit, text)
  | c :: text =>
    match escapeLetter? c with
    | some c => .ok (c, text)
    | none => .error .malformedEscape
  | [] => .error .endOfText

/-- Reads the characters of a string up to its closing quote; `fuel` bounds their number. -/
def readCharacters : (fuel : Nat) → (reversed text : List Char) → Step (List Char × List Char)
  | 0, _, _ => .error .endOfText
  | fuel + 1, reversed, text =>
    match text with
    | [] => .error .endOfText
    | '"' :: rest => .ok (reversed.reverse, rest)
    | '\\' :: rest => do
      let (c, rest) ← readEscape rest
      readCharacters fuel (c :: reversed) rest
    | c :: rest =>
      if c.toNat < 32 then .error .controlCharacter
      else readCharacters fuel (c :: reversed) rest

/-- Reads a string after its opening quote. -/
def readString (text : List Char) : Step (String × List Char) := do
  let (characters, rest) ← readCharacters (text.length + 1) [] text
  return (String.ofList characters, rest)

/-! ### Documents -/

/-- The rest of the text after a word, which stands at its start. -/
def readWord (word : List Char) (value : Value) (text : List Char) : Step (Value × List Char) :=
  match word, text with
  | [], text => .ok (value, text)
  | c :: word, d :: text =>
    if c = d then readWord word value text else .error (.unexpected d)
  | _ :: _, [] => .error .endOfText

mutual

/-- Reads a value; `depth` levels of containers may still be opened. -/
def readValue : (fuel depth : Nat) → (text : List Char) → Step (Value × List Char)
  | 0, _, _ => .error .endOfText
  | fuel + 1, depth, text =>
    match skipSpace text with
    | 'n' :: rest => readWord ['u', 'l', 'l'] .null rest
    | 't' :: rest => readWord ['r', 'u', 'e'] (.bool true) rest
    | 'f' :: rest => readWord ['a', 'l', 's', 'e'] (.bool false) rest
    | '"' :: rest => do
      let (s, rest) ← readString rest
      return (.string s, rest)
    | '[' :: rest => do
      if depth = 0 then throw .tooDeep
      match skipSpace rest with
      | ']' :: rest => return (.array [], rest)
      | rest =>
        let (items, rest) ← readItems fuel (depth - 1) rest
        return (.array items, rest)
    | '{' :: rest => do
      if depth = 0 then throw .tooDeep
      match skipSpace rest with
      | '}' :: rest => return (.object [], rest)
      | rest =>
        let (members, rest) ← readMembers fuel (depth - 1) rest
        return (.object members, rest)
    | rest => do
      let (n, rest) ← readNumber rest
      return (.number n, rest)

/-- Reads one or more items and the closing bracket. -/
def readItems : (fuel depth : Nat) → (text : List Char) → Step (List Value × List Char)
  | 0, _, _ => .error .endOfText
  | fuel + 1, depth, text => do
    let (item, rest) ← readValue fuel depth text
    match skipSpace rest with
    | ']' :: rest => return ([item], rest)
    | ',' :: rest =>
      let (items, rest) ← readItems fuel depth rest
      return (item :: items, rest)
    | rest => throw (unexpected rest)

/-- Reads one or more members and the closing brace. -/
def readMembers : (fuel depth : Nat) → (text : List Char) → Step (Members × List Char)
  | 0, _, _ => .error .endOfText
  | fuel + 1, depth, text => do
    match skipSpace text with
    | '"' :: rest =>
      let (key, rest) ← readString rest
      match skipSpace rest with
      | ':' :: rest =>
        let (value, rest) ← readValue fuel depth rest
        match skipSpace rest with
        | '}' :: rest => return ([(key, value)], rest)
        | ',' :: rest =>
          let (members, rest) ← readMembers fuel depth rest
          return ((key, value) :: members, rest)
        | rest => throw (unexpected rest)
      | rest => throw (unexpected rest)
    | rest => throw (unexpected rest)

end

/-- Reads a whole document with at most `depth` nested containers. Every call of a reader but a
bounded number passes over a character, which is what the fuel counts. -/
def decodeDeep (depth : Nat) (text : List Char) : Except JsonFault Value := do
  let (value, rest) ← readValue (2 * text.length + 2) depth text
  match skipSpace rest with
  | [] => return value.canonical
  | _ => throw .trailingText

/-- The number of containers that may be nested in a document. -/
def maxDepth : Nat := 127

end Json

/-- Reads a JSON document. -/
def Value.decode (text : String) : Except JsonFault Value :=
  Json.decodeDeep Json.maxDepth text.toList

end DesignTokens

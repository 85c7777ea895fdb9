import DesignTokens.Number.Digits
import DesignTokens.Yaml.Cursor

/-!
# Scalars

How the text of a scalar is read in each of its styles: between quotes, plain, and as a block of
indented lines. Every reader returns the text and the cursor behind it.
-/

set_option autoImplicit false

namespace DesignTokens.Yaml

/-! ### Between quotes -/

/-- What the letters after a backslash stand for. -/
def escapes : List (Char × Nat) :=
  [('0', 0), ('a', 7), ('b', 8), ('t', 9), ('\t', 9), ('n', 10), ('v', 11), ('f', 12), ('r', 13),
    ('e', 27), (' ', 32), ('"', 34), ('/', 47), ('\\', 92), ('N', 0x85), ('_', 0xA0),
    ('L', 0x2028), ('P', 0x2029)]

/-- How many hexadecimal digits follow a letter after a backslash. -/
def escapeWidths : List (Char × Nat) :=
  [('x', 2), ('u', 4), ('U', 8)]

/-- The character of a code point, if there is one. -/
def charOf? (code : Nat) : Option Char :=
  if code.isValidChar then some (Char.ofNat code) else none

/-- Reads an escape behind its backslash: the character and the number of characters read. -/
def readEscape? : List Char → Option (Char × Nat)
  | [] => none
  | letter :: rest =>
    match escapes.lookup letter, escapeWidths.lookup letter with
    | some code, _ => some (Char.ofNat code, 1)
    | none, some width => do
      let digits := rest.take width
      let code ← if digits.length = width then readDigits? 16 digits else none
      return (← charOf? code, width + 1)
    | none, none => none

/-- Reads a scalar between quotes up to and with the closing one; `reversed` is its text so far. A
line end after a backslash is dropped with the blanks that follow it. -/
def readQuoted (double : Bool) : (fuel : Nat) → (reversed : List Char) → Cursor →
    Except YamlFault (List Char × Cursor)
  | 0, _, _ => .error .unclosedQuote
  | fuel + 1, reversed, cursor =>
    if cursor.atDocumentMark then .error .markInsideQuote
    else
      match cursor.rest with
      | [] => .error .unclosedQuote
      | c :: rest =>
        if isSpacing c then do
          let (gap, next) ← Gap.read 0 cursor
          readQuoted double fuel (gap.fold.reverse ++ reversed) next
        else if double && c = '\\' then
          if rest.head?.any isBreak then do
            -- the escaped line end counts for nothing, the empty lines behind it do
            let (gap, next) ← Gap.read 0 (cursor.skip 1).skipBreak
            readQuoted double fuel (gap.breaks.reverse ++ reversed) next
          else
            match readEscape? rest with
            | some (escaped, count) =>
              readQuoted double fuel (escaped :: reversed) (cursor.skip (count + 1))
            | none => .error .malformedEscape
        else if c = (if double then '"' else '\'') then
          -- between single quotes, a quote is written twice
          if !double && rest.head? = some '\'' then
            readQuoted double fuel ('\'' :: reversed) (cursor.skip 2)
          else .ok (reversed.reverse, cursor.skip 1)
        else readQuoted double fuel (c :: reversed) (cursor.skip 1)

/-! ### Plain -/

/-- Whether a character has a meaning of its own inside brackets. -/
def isFlowIndicator (c : Char) : Bool :=
  c = ',' || c = '[' || c = ']' || c = '{' || c = '}'

/-- Whether a plain word ends before a text that starts with this character. -/
def endsPlain (flow : Bool) (c : Char) (rest : List Char) : Bool :=
  isSpacing c || (c = ':' && startsSpacing rest) || (flow && isFlowIndicator c)

/-- The plain word that a text starts with. Inside brackets a colon right before another indicator
is a fault. -/
def plainWord (flow : Bool) : List Char → Except YamlFault (List Char)
  | [] => .ok []
  | c :: rest =>
    if flow && c = ':' && rest.head?.any (fun next => isFlowIndicator next || next = '?') then
      .error .ambiguousColon
    else if endsPlain flow c rest then .ok []
    else do return c :: (← plainWord flow rest)

/-- Reads a plain scalar, word after word, as long as lines reach column `indent`; `reversed` is its
text so far and `gap` what was read behind it. The last result says whether a line end was
read. -/
def readPlain (flow : Bool) (indent : Nat) : (fuel : Nat) → (reversed : List Char) → Gap → Cursor →
    Except YamlFault (List Char × Cursor × Bool)
  | 0, reversed, gap, cursor => .ok (reversed.reverse, cursor, !gap.breaks.isEmpty)
  | fuel + 1, reversed, gap, cursor =>
    if cursor.atDocumentMark || cursor.rest.head? = some '#' then
      .ok (reversed.reverse, cursor, !gap.breaks.isEmpty)
    else do
      let word ← plainWord flow cursor.rest
      if word.isEmpty then return (reversed.reverse, cursor, !gap.breaks.isEmpty)
      -- the gap before a word belongs to the scalar only now that a word follows
      let reversed := word.reverse ++ gap.fold.reverse ++ reversed
      let (gap, next) ← Gap.read indent (cursor.skip word.length)
      if !flow && decide (next.column < indent) then
        return (reversed.reverse, next, !gap.breaks.isEmpty)
      readPlain flow indent fuel reversed gap next

/-! ### Blocks of lines -/

/-- What happens to the line ends behind the last line of a block. -/
inductive Chomping where
  | strip
  | clip
  | keep

/-- The header of a block: what is said about the line ends and about the indentation. -/
structure BlockHeader where
  chomping : Chomping
  increment : Option Nat

/-- The indicator of a way to chomp. -/
def chompingOf? : Char → Option Chomping
  | '+' => some .keep
  | '-' => some .strip
  | _ => none

/-- Reads the increment of the indentation, a digit from one to nine. -/
def readIncrement (cursor : Cursor) : Except YamlFault (Option Nat × Cursor) :=
  match cursor.rest.head?.bind fun c => if c.isDigit then digitValue? c else none with
  | some 0 => .error .malformedBlockHeader
  | some digit => .ok (some digit, cursor.skip 1)
  | none => .ok (none, cursor)

/-- Reads the indicator for the line ends. -/
def readChomping (cursor : Cursor) : Option Chomping × Cursor :=
  match cursor.rest.head?.bind chompingOf? with
  | some chomping => (some chomping, cursor.skip 1)
  | none => (none, cursor)

/-- Reads the header of a block with its line end. Its two indicators may come in either order. -/
def readBlockHeader (cursor : Cursor) : Except YamlFault (BlockHeader × Cursor) := do
  let (first, cursor) := readChomping cursor
  let (increment, cursor) ← readIncrement cursor
  let (second, cursor) :=
    if first.isNone && increment.isSome then readChomping cursor else (none, cursor)
  let cursor := cursor.skipBlanks
  let cursor := if cursor.rest.head? = some '#' then cursor.skipLine else cursor
  let header : BlockHeader := ⟨((first <|> second).getD .clip), increment⟩
  match cursor.rest with
  | [] => return (header, cursor)
  | c :: _ => if isBreak c then return (header, cursor.skipBreak) else throw .malformedBlockHeader

/-- Skips indentation and empty lines: the line ends on the way and the greatest column that was
reached. Without an indentation `indent` every space counts as indentation. -/
def readIndentation (indent : Option Nat) (deepest : Nat) (breaks : List Char) (line column : Nat) :
    List Char → Except YamlFault (List Char × Nat × Cursor)
  | [] => .ok (breaks, max deepest column, ⟨[], line, column⟩)
  | c :: rest =>
    let within := indent.all fun indent => decide (column < indent)
    if within && c = ' ' then
      readIndentation indent (max deepest (column + 1)) breaks line (column + 1) rest
    else if within && c = '\t' then .error .tabIndentation
    else if isBreak c then readIndentation indent deepest (breaks ++ [c]) (line + 1) 0 rest
    else .ok (breaks, max deepest column, ⟨c :: rest, line, column⟩)

/-- The text of a block so far, last character first, and the line ends behind its last line: the
first and the others. -/
structure BlockText where
  reversed : List Char
  first : List Char
  others : List Char
  /-- Whether the last line started with a blank. -/
  blank : Bool

namespace BlockText

/-- What stands for the line ends before a further line. A folded block has a space for a single
line end between two lines that do not start with blanks. -/
def joint (text : BlockText) (folded blank : Bool) : List Char :=
  if folded && text.first = ['\n'] && !text.blank && !blank then
    if text.others.isEmpty then [' '] else text.others
  else text.first ++ text.others

/-- The whole text. -/
def finish (text : BlockText) (chomping : Chomping) : List Char :=
  text.reversed.reverse ++
    match chomping with
    | .strip => []
    | .clip => text.first
    | .keep => text.first ++ text.others

end BlockText

/-- Reads the lines of a block that start in column `indent`. -/
def readBlockLines (folded : Bool) (indent : Nat) : (fuel : Nat) → BlockText → Cursor →
    Except YamlFault (BlockText × Cursor)
  | 0, text, cursor => .ok (text, cursor)
  | fuel + 1, text, cursor =>
    match cursor.rest with
    | [] => .ok (text, cursor)
    | c :: _ =>
      if cursor.column ≠ indent then .ok (text, cursor)
      else do
        let (line, cursor) := cursor.span fun c => !isBreak c
        let reversed := line.reverse ++ (text.joint folded (isBlank c)).reverse ++ text.reversed
        let first := cursor.rest.take 1
        let cursor := if first.isEmpty then cursor else cursor.skipBreak
        let (others, _, cursor) ←
          readIndentation (some indent) 0 [] cursor.line cursor.column cursor.rest
        readBlockLines folded indent fuel ⟨reversed, first, others, isBlank c⟩ cursor

/-- Reads a block scalar behind its indicator; lines that belong to it start at least in column
`least`. -/
def readBlock (folded : Bool) (least : Nat) (cursor : Cursor) :
    Except YamlFault (List Char × Cursor) := do
  let (header, cursor) ← readBlockHeader cursor
  -- an increment counts from the column of the surrounding block
  let given := header.increment.map (least - 1 + ·)
  let (breaks, deepest, cursor) ←
    readIndentation given 0 [] cursor.line cursor.column cursor.rest
  let indent := given.getD (max deepest (max least 1))
  let (text, cursor) ←
    readBlockLines folded indent (cursor.rest.length + 1) ⟨[], [], breaks, false⟩ cursor
  return (text.finish header.chomping, cursor)

end DesignTokens.Yaml

import DesignTokens.Yaml.Property

/-!
# Cutting a text into tokens

`scan` cuts a document into tokens. A mapping key without an indicator of its own shows as a key
only by the colon behind it; `Candidate` remembers where the last token that could be one started,
so that the tokens which belong before it can be inserted there.
-/

set_option autoImplicit false

namespace DesignTokens.Yaml

/-- The place of a token that is a mapping key if a colon follows. -/
structure Candidate where
  /-- The number of tokens before it. -/
  position : Nat
  line : Nat
  column : Nat
  /-- Whether nothing but a key can stand there. -/
  required : Bool

/-- How far a text has been cut into tokens. -/
structure Scanner where
  cursor : Cursor
  /-- The tokens so far, the last one first. -/
  tokens : List Token
  /-- The columns of the open blocks, the innermost first. -/
  columns : List Nat
  /-- The candidate inside the innermost brackets. -/
  candidate : Option Candidate
  /-- The candidates around each pair of open brackets, the innermost first. -/
  outer : List (Option Candidate)
  /-- Whether a key may start here. -/
  keyAllowed : Bool

/-- How far behind its start the colon of a key may stand. -/
def maxKeyLength : Nat := 1024

namespace Scanner

/-- Whether there are open brackets. -/
def flow (s : Scanner) : Bool :=
  !s.outer.isEmpty

/-- The least column that is inside the innermost block. -/
def least (s : Scanner) : Nat :=
  match s.columns with
  | [] => 0
  | column :: _ => column + 1

/-- Adds a token. -/
def emit (s : Scanner) (token : Token) : Scanner :=
  { s with tokens := token :: s.tokens }

/-- Inserts a token behind the first `position` ones. -/
def insertAt (s : Scanner) (position : Nat) (token : Token) : Scanner :=
  let later := s.tokens.length - position
  { s with tokens := s.tokens.take later ++ token :: s.tokens.drop later }

/-- Whether a candidate can no longer be a key. -/
def isStale (s : Scanner) (candidate : Candidate) : Bool :=
  candidate.line < s.cursor.line || candidate.column + maxKeyLength < s.cursor.column

/-- Gives up a candidate, unless it had to be a key. -/
def giveUp : Option Candidate → Except YamlFault (Option Candidate)
  | none => .ok none
  | some candidate => if candidate.required then .error .missingColon else .ok none

/-- Gives up a candidate that is stale. -/
def refresh (s : Scanner) (candidate : Option Candidate) : Except YamlFault (Option Candidate) :=
  if candidate.any s.isStale then giveUp candidate else .ok candidate

/-- Gives up all candidates that are stale. -/
def dropStale (s : Scanner) : Except YamlFault Scanner := do
  return { s with candidate := ← s.refresh s.candidate, outer := ← s.outer.mapM s.refresh }

/-- Gives up the candidate. -/
def dropCandidate (s : Scanner) : Except YamlFault Scanner := do
  return { s with candidate := ← giveUp s.candidate }

/-- Makes the next token the candidate, if a key may start here. -/
def noteCandidate (s : Scanner) : Except YamlFault Scanner := do
  if !s.keyAllowed then return s
  let s ← s.dropCandidate
  -- in the column of a block, what is no dash has to be the next key
  let required := !s.flow && s.columns.head? = some s.cursor.column
  return { s with
    candidate := some ⟨s.tokens.length, s.cursor.line, s.cursor.column, required⟩ }

/-- Closes the blocks whose column is at least `least`. Brackets keep blocks open. -/
def closeBlocks (s : Scanner) (least : Nat) : Scanner :=
  if s.flow then s
  else
    -- columns descend from the innermost block outwards
    let closed := s.columns.takeWhile (least ≤ ·)
    { s with
      columns := s.columns.drop closed.length
      tokens := closed.map (fun _ => Token.blockEnd) ++ s.tokens }

/-- Opens a block in a column that lies inside the innermost one, with a token behind the first
`position` ones. -/
def openBlock (s : Scanner) (column position : Nat) (token : Token) : Scanner :=
  if s.flow || decide (column < s.least) then s
  else { s.insertAt position token with columns := column :: s.columns }

/-- Skips white space and comments. Behind a line end a key may start, and a tab that stands where
a key may start is not skipped. -/
def skipSpacing (flow : Bool) (keyAllowed comment : Bool) (line column : Nat) :
    List Char → Cursor × Bool
  | [] => (⟨[], line, column⟩, keyAllowed)
  | c :: rest =>
    if isBreak c then skipSpacing flow (keyAllowed || !flow) false (line + 1) 0 rest
    else if comment || c = ' ' || (c = '\t' && (flow || !keyAllowed)) then
      skipSpacing flow keyAllowed comment line (column + 1) rest
    else if c = '#' then skipSpacing flow keyAllowed true line (column + 1) rest
    else (⟨c :: rest, line, column⟩, keyAllowed)

/-- Goes to the start of the next token. -/
def advance (s : Scanner) : Scanner :=
  let (cursor, keyAllowed) :=
    skipSpacing s.flow s.keyAllowed false s.cursor.line s.cursor.column s.cursor.rest
  { s with cursor, keyAllowed }

/-! ### The kinds of tokens -/

/-- A token that was read, behind which a key may start or not. -/
def took (s : Scanner) (token : Token) (cursor : Cursor) (keyAllowed : Bool) : Scanner :=
  { s.emit token with cursor, keyAllowed }

/-- A directive, or the start or the end of a document. -/
def document (s : Scanner) (token : Token) (cursor : Cursor) : Except YamlFault Scanner := do
  return (← (s.closeBlocks 0).dropCandidate).took token cursor false

/-- An opening bracket. -/
def openFlow (s : Scanner) (token : Token) : Except YamlFault Scanner := do
  let s ← s.noteCandidate
  return { s.took token (s.cursor.skip 1) true with
    candidate := none, outer := s.candidate :: s.outer }

/-- A closing bracket. -/
def closeFlow (s : Scanner) (token : Token) : Except YamlFault Scanner := do
  let s := (← s.dropCandidate).took token (s.cursor.skip 1) false
  match s.outer with
  | [] => return s
  | candidate :: outer => return { s with candidate, outer }

/-- A comma inside brackets. -/
def flowEntry (s : Scanner) : Except YamlFault Scanner := do
  return (← s.dropCandidate).took .flowEntry (s.cursor.skip 1) true

/-- The dash before an item. -/
def blockEntry (s : Scanner) : Except YamlFault Scanner := do
  if !s.flow && !s.keyAllowed then throw .misplacedEntry
  let s := s.openBlock s.cursor.column s.tokens.length .blockSequenceStart
  return (← s.dropCandidate).took .blockEntry (s.cursor.skip 1) true

/-- The question mark before a key. -/
def key (s : Scanner) : Except YamlFault Scanner := do
  if !s.flow && !s.keyAllowed then throw .misplacedKey
  let s := s.openBlock s.cursor.column s.tokens.length .blockMappingStart
  return (← s.dropCandidate).took .key (s.cursor.skip 1) (!s.flow)

/-- The colon behind a key. -/
def value (s : Scanner) : Except YamlFault Scanner := do
  match s.candidate with
  | some candidate =>
    -- the key token comes before the candidate, and the start of the mapping before that
    let s := (s.insertAt candidate.position .key).openBlock candidate.column candidate.position
      .blockMappingStart
    return { s.took .value (s.cursor.skip 1) false with candidate := none }
  | none =>
    -- the key is empty, or it had an indicator of its own
    if !s.flow && !s.keyAllowed then throw .misplacedValue
    let s := s.openBlock s.cursor.column s.tokens.length .blockMappingStart
    return s.took .value (s.cursor.skip 1) (!s.flow)

/-- A reference or an anchor. -/
def anchor (s : Scanner) (token : List Char → Token) : Except YamlFault Scanner := do
  let s ← s.noteCandidate
  let (name, next) ← readAnchor s.cursor
  return s.took (token name) next false

/-- A tag. -/
def tag (s : Scanner) : Except YamlFault Scanner := do
  let s ← s.noteCandidate
  let (token, next) ← readTag s.flow s.cursor
  return s.took token next false

/-- A block scalar. -/
def block (s : Scanner) (folded : Bool) : Except YamlFault Scanner := do
  let s ← s.dropCandidate
  let (text, next) ← readBlock folded s.least (s.cursor.skip 1)
  return s.took (.scalar text false) next true

/-- A scalar between quotes. -/
def quoted (s : Scanner) (double : Bool) : Except YamlFault Scanner := do
  let s ← s.noteCandidate
  let next := s.cursor.skip 1
  let (text, next) ← readQuoted double (next.rest.length + 1) [] next
  return s.took (.scalar text false) next false

/-- A plain scalar. -/
def plain (s : Scanner) : Except YamlFault Scanner := do
  let s ← s.noteCandidate
  let (text, next, ended) ← readPlain s.flow s.least (s.cursor.rest.length + 1) [] .empty s.cursor
  return s.took (.scalar text true) next ended

/-- The characters that start no plain scalar, or only before something else than white space. -/
def indicators : List Char :=
  ['-', '?', ':', ',', '[', ']', '{', '}', '#', '&', '*', '!', '|', '>', '\'', '"', '%', '@',
    Char.ofNat 96]

/-- Whether a plain scalar starts with this character before this text. -/
def startsPlain (flow : Bool) (c : Char) (rest : List Char) : Bool :=
  !(isSpacing c || indicators.contains c) ||
    (c = '-' && !rest.head?.any isBlank) ||
    (!flow && (c = '?' || c = ':') && !startsSpacing rest)

/-- Reads the token that starts with a character. -/
def next (s : Scanner) (c : Char) (rest : List Char) : Except YamlFault Scanner :=
  let bare := startsSpacing rest
  if s.cursor.column = 0 && c = '%' then do
    let (token, after) ← readDirective s.cursor
    s.document token after
  else if s.cursor.atMark '-' then s.document .documentStart (s.cursor.skip 3)
  else if s.cursor.atMark '.' then s.document .documentEnd (s.cursor.skip 3)
  else if c = '[' then s.openFlow .flowSequenceStart
  else if c = '{' then s.openFlow .flowMappingStart
  else if c = ']' then s.closeFlow .flowSequenceEnd
  else if c = '}' then s.closeFlow .flowMappingEnd
  else if c = ',' then s.flowEntry
  else if c = '-' && bare then s.blockEntry
  else if c = '?' && (s.flow || bare) then s.key
  else if c = ':' && (s.flow || bare) then s.value
  else if c = '*' then s.anchor .reference
  else if c = '&' then s.anchor .anchor
  else if c = '!' then s.tag
  else if c = '|' && !s.flow then s.block false
  else if c = '>' && !s.flow then s.block true
  else if c = '\'' then s.quoted false
  else if c = '"' then s.quoted true
  else if startsPlain s.flow c rest then s.plain
  else .error .unexpectedCharacter

/-- Reads all tokens. -/
def run : (fuel : Nat) → Scanner → Except YamlFault (List Token)
  | 0, s => .ok s.tokens.reverse
  | fuel + 1, s => do
    let s ← s.advance.dropStale
    -- a token to the left of a block is no longer part of it
    let s := s.closeBlocks (s.cursor.column + 1)
    match s.cursor.rest with
    | [] => return (← (s.closeBlocks 0).dropCandidate).tokens.reverse
    | c :: rest => run fuel (← s.next c rest)

end Scanner

/-! ### Texts -/

/-- Whether a character may stand in a document. -/
def isAllowed (c : Char) : Bool :=
  let code := c.toNat
  code = 0x9 || code = 0xA || code = 0xD || (0x20 ≤ code && code ≤ 0x7E) || code = 0x85 ||
    (0xA0 ≤ code && code ≤ 0xD7FF) || (0xE000 ≤ code && code ≤ 0xFFFD) || 0x10000 ≤ code

/-- The text with a line feed for every spelling of a line end. -/
def unifyBreaks : List Char → List Char
  | [] => []
  | '\r' :: '\n' :: rest => '\n' :: unifyBreaks rest
  | c :: rest => (if c = '\r' || c.toNat = 0x85 then '\n' else c) :: unifyBreaks rest

/-- The mark that may stand before a text to tell its encoding. -/
def byteOrderMark : Char := Char.ofNat 0xFEFF

/-- The start of a text. Byte order marks in front of it are skipped; only the first one takes up no
column. -/
def Cursor.ofText (text : List Char) : Cursor :=
  let text := if text.head? = some byteOrderMark then text.drop 1 else text
  let cursor : Cursor := ⟨unifyBreaks text, 0, 0⟩
  if text.head? = some byteOrderMark then cursor.skip 1 else cursor

/-- The tokens of a text. -/
def scan (text : List Char) : Except YamlFault (List Token) :=
  if text.all isAllowed then
    Scanner.run (text.length + 1) ⟨.ofText text, [], [], none, [], true⟩
  else .error .forbiddenCharacter

end DesignTokens.Yaml

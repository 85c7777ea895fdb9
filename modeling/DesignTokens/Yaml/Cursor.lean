import DesignTokens.Yaml.Fault

/-!
# Reading positions

A `Cursor` is what is left of a text, with the line and the column that it starts at; YAML depends
on both. A `Gap` is the white space between two words of a scalar, and `Gap.fold` the text that it
stands for.
-/

set_option autoImplicit false

namespace DesignTokens.Yaml

/-- Whether a character ends a line. The other spellings of a line end have been replaced by the
line feed. -/
def isBreak (c : Char) : Bool :=
  c = '\n' || c.toNat = 0x2028 || c.toNat = 0x2029

/-- Whether a character is white space inside a line. -/
def isBlank (c : Char) : Bool :=
  c = ' ' || c = '\t'

/-- Whether a character is white space of either kind. -/
def isSpacing (c : Char) : Bool :=
  isBlank c || isBreak c

/-- Whether a text is empty or starts with white space. -/
def startsSpacing : List Char → Bool
  | [] => true
  | c :: _ => isSpacing c

/-- What is left of a text, and where it starts. -/
structure Cursor where
  rest : List Char
  line : Nat
  column : Nat
deriving Repr

namespace Cursor

/-- The cursor after some characters of its line. -/
def skip (cursor : Cursor) (count : Nat) : Cursor :=
  { cursor with rest := cursor.rest.drop count, column := cursor.column + count }

/-- The cursor at the start of the next line. -/
def skipBreak (cursor : Cursor) : Cursor :=
  ⟨cursor.rest.drop 1, cursor.line + 1, 0⟩

/-- The longest start of the line whose characters all belong to a class, and what follows it. -/
def span (cursor : Cursor) (belongs : Char → Bool) : List Char × Cursor :=
  let taken := cursor.rest.takeWhile belongs
  (taken, cursor.skip taken.length)

/-- Whether three times this character, alone at the start of a line, is next. -/
def atMark (cursor : Cursor) (c : Char) : Bool :=
  cursor.column = 0 && cursor.rest.take 3 = [c, c, c] && startsSpacing (cursor.rest.drop 3)

/-- Whether the start or the end of a document is marked here. -/
def atDocumentMark (cursor : Cursor) : Bool :=
  cursor.atMark '-' || cursor.atMark '.'

/-- The cursor without the spaces in front of it. -/
def skipBlanks (cursor : Cursor) : Cursor :=
  (cursor.span isBlank).2

/-- The cursor at the end of its line. -/
def skipLine (cursor : Cursor) : Cursor :=
  (cursor.span fun c => !isBreak c).2

end Cursor

/-- The white space between two words: the blanks before the first line end, and all line ends. -/
structure Gap where
  blanks : List Char
  breaks : List Char

namespace Gap

/-- No white space. -/
def empty : Gap := ⟨[], []⟩

/-- What a gap stands for: itself within a line, a space for one line end, and one line end less
than there are otherwise. The line ends that no editor produces are kept. -/
def fold (gap : Gap) : List Char :=
  match gap.breaks with
  | [] => gap.blanks
  | ['\n'] => [' ']
  | '\n' :: further => further
  | breaks => breaks

/-- Reads a gap. A tab left of column `indent` on a line of its own is a fault. -/
def readFrom (indent : Nat) (blanks breaks : List Char) (line column : Nat) :
    List Char → Except YamlFault (Gap × Cursor)
  | [] => .ok (⟨blanks, breaks⟩, ⟨[], line, column⟩)
  | c :: rest =>
    if isBreak c then readFrom indent blanks (breaks ++ [c]) (line + 1) 0 rest
    else if isBlank c then
      if c = '\t' && !breaks.isEmpty && decide (column < indent) then .error .tabIndentation
      else
        readFrom indent (if breaks.isEmpty then blanks ++ [c] else blanks) breaks line (column + 1)
          rest
    else .ok (⟨blanks, breaks⟩, ⟨c :: rest, line, column⟩)

/-- Reads the gap at a cursor. -/
def read (indent : Nat) (cursor : Cursor) : Except YamlFault (Gap × Cursor) :=
  readFrom indent [] [] cursor.line cursor.column cursor.rest

end Gap

end DesignTokens.Yaml

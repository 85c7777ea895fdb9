import DesignTokens.Number.Digits
import DesignTokens.Text.Split

/-!
# Words of the template language

A `Reader` reads the start of a text and leaves the rest; alternatives are tried in order and the
first that succeeds is final. Here are the words: literals, names, paths and the tags' brackets.
-/

set_option autoImplicit false

namespace DesignTokens.Template

/-- A reader reads a start of the text, or fails. -/
abbrev Reader := StateT (List Char) Option

namespace Reader

/-- Applies a reader as often as it succeeds, at most `limit` times. -/
def manyUpTo {α : Type} (reader : Reader α) : (limit : Nat) → Reader (List α)
  | 0 => pure []
  | limit + 1 =>
    (do
      let first ← reader
      return first :: (← manyUpTo reader limit)) <|> pure []

/-- Applies a reader that reads something as often as it succeeds. -/
def many {α : Type} (reader : Reader α) : Reader (List α) := do
  manyUpTo reader (← get).length

/-- Applies a reader if it succeeds. -/
def maybe {α : Type} (reader : Reader α) : Reader (Option α) :=
  (some <$> reader) <|> pure none

/-- Whether a reader succeeds, which is then applied. -/
def isGiven (reader : Reader Unit) : Reader Bool :=
  (do
    reader
    return true) <|> pure false

/-- Reads exactly the given text. -/
def exactly (text : String) : Reader Unit := do
  match Text.dropStart? text.toList (← get) with
  | some rest => set rest
  | none => failure

/-- Reads the longest start whose characters belong to a class. -/
def takeWhile (belongs : Char → Bool) : Reader (List Char) :=
  modifyGet fun text => (text.takeWhile belongs, text.dropWhile belongs)

/-- Reads the longest start whose characters belong to a class; it must not be empty. -/
def takeSome (belongs : Char → Bool) : Reader (List Char) := do
  let taken ← takeWhile belongs
  if taken.isEmpty then failure else return taken

/-- The text that a reader reads. -/
def captured (reader : Reader Unit) : Reader (List Char) := do
  let before ← get
  reader
  return before.take (before.length - (← get).length)

/-! ### White space -/

/-- Whether a character separates words. -/
def isSpace (c : Char) : Bool :=
  c = ' ' || c = '\t' || c = '\r' || c = '\n'

/-- Skips white space. -/
def space : Reader Unit :=
  discard (takeWhile isSpace)

/-- Skips white space, of which there must be some. -/
def someSpace : Reader Unit :=
  discard (takeSome isSpace)

/-- Skips white space and reads a sign. -/
def sign (text : String) : Reader Unit := do
  space
  exactly text

/-- Reads a reader's text after white space. -/
def spaced {α : Type} (reader : Reader α) : Reader α := do
  space
  reader

/-- Reads a word that white space must follow. -/
def keyword (text : String) : Reader Unit := do
  space
  exactly text
  someSpace

/-- Reads what a reader reads once or more often, with commas between. -/
def separated {α : Type} (reader : Reader α) : Reader (List α) := do
  let first ← reader
  let rest ← many (do
    sign ","
    reader)
  return first :: rest

/-! ### Names -/

/-- Whether a character may start a name. -/
def startsName (c : Char) : Bool :=
  c.isAlpha || c = '_'

/-- Whether a character may stand in a name. -/
def isNameChar (c : Char) : Bool :=
  c.isAlphanum || c = '_'

/-- Reads a name as characters. -/
def nameChars : Reader (List Char) := do
  let taken ← takeSome isNameChar
  if taken.head?.any startsName then return taken else failure

/-- Reads a name. -/
def name : Reader String := do
  space
  return String.ofList (← nameChars)

/-! ### Literals -/

/-- Reads a natural number without leading zeros. -/
def wholeDigits : Reader (List Char) := do
  match ← get with
  | '0' :: rest =>
    set rest
    return ['0']
  | _ => takeSome Char.isDigit

/-- Reads an integer. -/
def integer : Reader Int := do
  let negative ← isGiven (exactly "-")
  match readDigits? 10 (← wholeDigits) with
  | some n => return if negative then -(n : Int) else (n : Int)
  | none => failure

/-- Reads a number with a point, which has digits on both sides. -/
def float : Reader Binary64 := do
  let negative ← isGiven (exactly "-")
  let whole ← wholeDigits
  exactly "."
  let fraction ← takeSome Char.isDigit
  match Binary64.ofDigits? negative whole fraction 0 with
  | some x => return x
  | none => failure

/-- Reads a string between two of the given quotes. Nothing inside is an escape. -/
def quotedBy (quote : Char) : Reader String := do
  match ← get with
  | c :: rest =>
    if c ≠ quote then failure
    set rest
    let content ← takeWhile (· ≠ quote)
    modify (·.drop 1)
    if rest.length ≤ content.length then failure
    return String.ofList content
  | [] => failure

/-- Reads a string. -/
def string : Reader String :=
  quotedBy '"' <|> quotedBy '\'' <|> quotedBy (Char.ofNat 96)

/-- Reads a Boolean. Nothing has to end the word. -/
def boolean : Reader Bool :=
  (do
    exactly "true"
    return true) <|>
  (do
    exactly "false"
    return false) <|>
  (do
    exactly "True"
    return true) <|>
  (do
    exactly "False"
    return false)

/-! ### Paths -/

/-- Reads a step of a path: a name after a point, or what stands in brackets, where `inner` reads a
path. -/
def pathPart (inner : Reader Unit) : Reader Unit :=
  (do
    exactly "."
    discard (takeSome isNameChar)) <|>
  (do
    exactly "["
    (discard integer) <|> (discard string) <|> inner
    exactly "]")

/-- Reads a path: names after points, and integers, strings or further paths in brackets, which nest
at most `depth` deep. -/
def pathWithin : (depth : Nat) → Reader Unit
  | 0 => failure
  | depth + 1 => do
    discard nameChars
    discard (many (pathPart (pathWithin depth)))

/-- Reads a path. -/
def path : Reader String := do
  let text ← captured (pathWithin ((← get).length + 1))
  return String.ofList text

/-! ### Brackets of tags -/

/-- Reads an opening bracket of a tag and says whether it trims the text before. -/
def opening (bracket : String) : Reader Bool := do
  exactly bracket
  isGiven (exactly "-")

/-- Reads a closing bracket of a tag and says whether it trims the text behind. -/
def closing (bracket : String) : Reader Bool := do
  space
  (do
    exactly "-"
    exactly bracket
    return true) <|>
  (do
    exactly bracket
    return false)

end Reader

/-- A text of letters, digits and underscores. -/
def IsName (name : String) : Prop :=
  ∀ c ∈ name.toList, Reader.isNameChar c = true

-- along the text and not along all characters that there are
instance (name : String) : Decidable (IsName name) :=
  List.decidableBAll _ name.toList

end DesignTokens.Template

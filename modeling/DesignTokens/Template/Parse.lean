import DesignTokens.Template.Fault
import DesignTokens.Template.Grammar
import DesignTokens.Template.Node
import DesignTokens.Text.Blank

/-!
# Reading templates

A template is text with tags. `Document.parse` reads the constructs that tags make up and trims the
text next to those brackets that ask for it. The text behind the `else` of a loop is never trimmed,
and the closing tag of a loop trims the end of its main body.
-/

set_option autoImplicit false

namespace DesignTokens.Template

/-! ### Trimming -/

/-- Which sides of a tag or a construct trim the text next to it. -/
structure Trim where
  before : Bool
  after : Bool

/-- A part of a body before trimming. -/
inductive Element where
  | text (content : List Char)
  | comment (trim : Trim)
  | node (trim : Trim) (construct : Node)
  /-- A node that leaves trimming to what stands around it. -/
  | passive (construct : Node)

namespace Element

/-- Whether an element trims the text before it. -/
def trimsBefore : Element → Bool
  | .comment trim | .node trim _ => trim.before
  | .text _ | .passive _ => false

/-- The node of a text, trimmed where it is asked for. -/
def trimmed (start finish : Bool) (content : List Char) : List Node :=
  let content := if start then Text.trimLeft content else content
  let content := if finish then Text.trimRight content else content
  if content.isEmpty then [] else [.text (String.ofList content)]

/-- The nodes of a body, of which the first text is trimmed at its start if `start` says so, and the
last at its end if `finish` says so. -/
def assemble (start finish : Bool) : List Element → List Node
  | [] => []
  | .text content :: rest =>
    let finished :=
      match rest with
      | [] => finish
      | next :: _ => next.trimsBefore
    trimmed start finished content ++ assemble false finish rest
  | .comment trim :: rest => assemble trim.after finish rest
  | .node trim construct :: rest => construct :: assemble trim.after finish rest
  | .passive construct :: rest => construct :: assemble start finish rest

/-- The nodes of a body as they are. -/
def untrimmed : List Element → List Node
  | [] => []
  | .text content :: rest => .text (String.ofList content) :: untrimmed rest
  | .comment _ :: rest => untrimmed rest
  | .node _ construct :: rest => construct :: untrimmed rest
  | .passive construct :: rest => construct :: untrimmed rest

end Element

/-- The construct that a body belongs to, which decides what may stand in it. -/
inductive Setting where
  | template
  | snippet
  | block
  | loop
  | filtered
deriving DecidableEq

namespace Reading

open Reader

/-! ### Text -/

/-- Whether a tag, an output or a comment starts here. -/
def startsTag : List Char → Bool
  | '{' :: c :: _ => c = '{' || c = '%' || c = '#'
  | _ => false

/-- Splits a text before its first tag; `reversed` is what comes before it. -/
def splitText (reversed : List Char) : List Char → List Char × List Char
  | [] => (reversed.reverse, [])
  | c :: rest =>
    if startsTag (c :: rest) then (reversed.reverse, c :: rest)
    else splitText (c :: reversed) rest

/-- Reads text, of which there must be some. -/
def text : Reader Element := do
  let content ← modifyGet (splitText [])
  if content.isEmpty then failure else return .text content

/-! ### Tags -/

/-- What may stand inside expressions. -/
abbrev Inner := Nested

/-- Reads a tag whose content is read by `content`. -/
def tag {α : Type} (content : Reader α) : Reader (Trim × α) := do
  let before ← opening "\x7b%"
  space
  let data ← content
  return (⟨before, ← closing "%\x7d"⟩, data)

/-- Reads a tag that consists of one word. -/
def wordTag (word : String) : Reader Trim := do
  return (← tag (exactly word)).1

/-- Reads a closing tag, in which the name of what it closes may be repeated. -/
def namedEnd (word : String) : Reader Trim := do
  let content : Reader Unit := do
    exactly word
    discard (maybe name)
  return (← tag content).1

/-- Reads the first word of a tag, which white space follows. -/
def head (word : String) : Reader Unit := do
  exactly word
  someSpace

/-- Skips a text up to where a reader succeeds, which is then applied; returns the text before and
the result. -/
def upTo {α : Type} (reader : Reader α) : (limit : Nat) → (reversed : List Char) →
    Reader (List Char × α)
  | 0, reversed => do return (reversed.reverse, ← reader)
  | limit + 1, reversed =>
    (do return (reversed.reverse, ← reader)) <|>
    (do
      match ← get with
      | [] => failure
      | c :: rest =>
        set rest
        upTo reader limit (c :: reversed))

/-- Reads a comment. -/
def comment : Reader Trim := do
  let before ← opening "\x7b#"
  let finish : Reader Bool :=
    (do
      exactly "-#\x7d"
      return true) <|>
    (do
      exactly "#\x7d"
      return false)
  let (_, after) ← upTo finish (← get).length []
  return ⟨before, after⟩

/-- Reads an output. -/
def output (inner : Inner) : Reader Element := do
  let before ← opening "\x7b\x7b"
  space
  let expression ← Grammar.expression inner <|> Grammar.array inner
  return .node ⟨before, ← closing "\x7d\x7d"⟩ (.output expression)

/-- Reads the place for the text of a block in a parent template. -/
def inherited : Reader Element := do
  discard (opening "\x7b\x7b")
  sign "super()"
  discard (closing "\x7d\x7d")
  return .passive .inherited

/-- Reads text that holds no tags. -/
def raw : Reader Element := do
  let start ← wordTag "raw"
  let (content, finish) ← upTo (wordTag "endraw") (← get).length []
  let content := if start.after then Text.trimLeft content else content
  let content := if finish.before then Text.trimRight content else content
  return .node ⟨start.before, finish.after⟩ (.text (String.ofList content))

/-- Reads an assignment. -/
def assignment (inner : Inner) (shared : Bool) : Reader Element := do
  let content : Reader (String × Expression) := do
    head (if shared then "set_global" else "set")
    let name ← name
    sign "="
    space
    return (name, ← Grammar.expression inner <|> Grammar.array inner)
  let (trim, name, expression) ← tag content
  return .node trim (.assign shared name expression)

/-- Reads an inclusion of a template, or of the first that exists. -/
def inclusion : Reader Element := do
  let names : Reader (List String) :=
    (do return [← string]) <|>
    (do
      exactly "["
      let names ← separated (spaced string)
      sign "]"
      return names)
  let content : Reader (List String × Bool) := do
    head "include"
    let names ← names
    let ignoreMissing ← isGiven (do
      someSpace
      exactly "ignore"
      sign "missing")
    return (names, ignoreMissing)
  let (trim, names, ignoreMissing) ← tag content
  return .node trim (.include names ignoreMissing)

/-- Reads a tag that leaves a loop or goes on with its next item. -/
def leave : Reader Element :=
  (do return .node (← wordTag "break") .breakLoop) <|>
  (do return .node (← wordTag "continue") .continueLoop)

/-! ### Constructs -/

/-- Reads a tag that starts with a condition. -/
def conditionTag (inner : Inner) (word : String) : Reader (Trim × Expression) :=
  tag (do
    head word
    Grammar.expression inner)

/-- The branches of a conditional, each trimmed by its own tag and the one behind its body. -/
def branches (last : Trim) : List (Trim × Expression × List Element) → List (Expression × List Node)
  | [] => []
  | (trim, condition, body) :: rest =>
    -- the tag behind a body is that of the next branch, of the `else` or of the end
    let next :=
      match rest with
      | [] => last
      | (trim, _) :: _ => trim
    (condition, Element.assemble trim.after next.before body) :: branches last rest

/-- Reads a conditional. -/
def conditional (inner : Inner) (body : Reader (List Element)) : Reader Element := do
  let (trim, condition) ← conditionTag inner "if"
  let first := (trim, condition, ← body)
  let further ← many (do
    let (trim, condition) ← conditionTag inner "elif"
    return (trim, condition, ← body))
  let otherwise ← maybe (do
    let trim ← wordTag "else"
    return (trim, ← body))
  let finish ← wordTag "endif"
  let last := (otherwise.map (·.1)).getD finish
  let rest :=
    match otherwise with
    | some (trim, elements) => Element.assemble trim.after finish.before elements
    | none => []
  return .node ⟨trim.before, finish.after⟩ (.conditional (branches last (first :: further)) rest)

/-- Reads a loop. -/
def loop (inner : Inner) (body : Reader (List Element)) : Reader Element := do
  let content : Reader (String × Option String × Expression) := do
    head "for"
    let first ← nameChars
    let second ← maybe (do
      exactly ","
      space
      nameChars)
    someSpace
    exactly "in"
    someSpace
    let container ← Grammar.filtered inner <|> Grammar.array inner
    return (String.ofList first, second.map String.ofList, container)
  let (start, first, second, container) ← tag content
  let main ← body
  let otherwise ← maybe (do
    discard (wordTag "else")
    body)
  let finish ← wordTag "endfor"
  -- the closing tag trims the main body even if an `else` stands between
  let main := Element.assemble start.after finish.before main
  let rest := Element.untrimmed (otherwise.getD [])
  return .node ⟨start.before, finish.after⟩
    (match second with
    | some value => .loop (some first) value container main rest
    | none => .loop none first container main rest)

/-- Reads a filtered body. -/
def filtered (inner : Inner) (body : Reader (List Element)) : Reader Element := do
  let (start, filter) ← tag (do
    head "filter"
    Grammar.filter inner)
  let elements ← body
  let finish ← wordTag "endfilter"
  return .node ⟨start.before, finish.after⟩
    (.filtered filter (Element.assemble start.after finish.before elements))

/-- Reads a block. -/
def block (body : Reader (List Element)) : Reader Element := do
  let (start, name) ← tag (do
    head "block"
    name)
  let elements ← body
  let finish ← namedEnd "endblock"
  return .node ⟨start.before, finish.after⟩
    (.block name (Element.assemble start.after finish.before elements))

/-- Reads the default of a parameter. -/
def parameterDefault : Reader Value := do
  space
  (Value.bool <$> boolean) <|> (Value.string <$> string) <|>
    ((fun x => Value.number (.float x)) <$> float) <|>
    ((fun i => Value.number (.integer i)) <$> integer)

/-- Reads the parameters of a snippet. -/
def parameters : Reader (List (String × Option Value)) := do
  let parameter : Reader (String × Option Value) := do
    let name ← name
    let value ← maybe (do
      sign "="
      parameterDefault)
    return (name, value)
  sign "("
  let given ← maybe (separated parameter)
  sign ")"
  return given.getD []

/-- Reads the definition of a snippet. -/
def snippet (body : Reader (List Element)) : Reader Element := do
  let content : Reader (String × List (String × Option Value)) := do
    head "macro"
    let name ← name
    return (name, ← parameters)
  let (start, name, parameters) ← tag content
  let elements ← body
  let finish ← namedEnd "endmacro"
  return .node ⟨start.before, finish.after⟩
    (.snippet name parameters (Element.assemble start.after finish.before elements))

/-! ### Bodies -/

/-- Applies a reader in some settings only. -/
def only {α : Type} (allowed : Bool) (reader : Reader α) : Reader α :=
  if allowed then reader else failure

/-- Reads an element of a body; `bodies` reads the bodies inside it. -/
def element (inner : Inner) (bodies : Setting → Reader (List Element)) (setting : Setting) :
    Reader Element :=
  text <|> only (setting = .block) inherited <|> output inner <|>
    (Element.comment <$> comment) <|> inclusion <|> assignment inner false <|>
    assignment inner true <|> raw <|> conditional inner (bodies setting) <|>
    loop inner (bodies .loop) <|> filtered inner (bodies .filtered) <|>
    only (setting = .loop) leave <|>
    only (setting ≠ .snippet) (block (bodies .block)) <|>
    only (setting = .template) (snippet (bodies .snippet))

/-- Reads a body whose constructs nest at most `depth` deep. -/
def elements (inner : Inner) : (depth : Nat) → Setting → Reader (List Element)
  | 0, _ => pure []
  | depth + 1, setting => many (element inner (elements inner depth) setting)

/-- Reads the tag that names the parent of a template. -/
def parent : Reader String := do
  space
  let (_, name) ← tag (do
    head "extends"
    string)
  space
  return name

/-- Reads a tag that makes the snippets of another template available. -/
def importTag : Reader (String × String) := do
  space
  let content : Reader (String × String) := do
    head "import"
    let file ← string
    someSpace
    exactly "as"
    someSpace
    return (file, ← name)
  let (_, names) ← tag content
  space
  return names

/-- Reads a whole template. Comments at its start are dropped without trimming anything. -/
def document : Reader Document := do
  let length := (← get).length
  let inner := Grammar.level (length + 1)
  discard (many comment)
  let parent ← maybe parent
  let parts ← many
    ((Sum.inl <$> importTag) <|> (Sum.inr <$> element inner (elements inner length) .template))
  return {
    nodes := Element.assemble false false (parts.filterMap Sum.getRight?)
    parent
    imports := parts.filterMap Sum.getLeft? }

end Reading

/-! ### Integers -/

/-- The integer, if it does not fit sixty-four signed bits. -/
def excess (i : Int) : List Int :=
  if -Int.pow 2 63 ≤ i ∧ i < Int.pow 2 63 then [] else [i]

mutual

/-- The integers of a term that do not fit, in the order in which they are written. -/
def Term.excess : Term → List Int
  | .string _ | .float _ | .boolean _ | .variable _ => []
  | .integer i => Template.excess i
  | .arithmetic _ lhs rhs | .relation _ lhs rhs | .membership _ lhs rhs =>
    lhs.excess ++ rhs.excess
  | .test _ _ _ arguments => excessAll arguments
  | .call _ arguments | .snippet _ _ arguments => excessNamed arguments
  | .array items => excessAll items
  | .concatenation parts => excessParts parts

/-- The integers of an expression that do not fit. -/
def Expression.excess : Expression → List Int
  | .mk _ term filters => term.excess ++ excessFilters filters

/-- The integers of named expressions that do not fit. -/
def excessNamed : List (String × Expression) → List Int
  | [] => []
  | (_, expression) :: rest => expression.excess ++ excessNamed rest

/-- The integers of expressions that do not fit. -/
def excessAll : List Expression → List Int
  | [] => []
  | expression :: rest => expression.excess ++ excessAll rest

/-- The integers of terms that do not fit. -/
def excessParts : List Term → List Int
  | [] => []
  | term :: rest => term.excess ++ excessParts rest

/-- The integers of filters that do not fit. -/
def excessFilters : List Filter → List Int
  | [] => []
  | .mk _ arguments :: rest => excessNamed arguments ++ excessFilters rest

end

/-- The integers of defaults that do not fit. -/
def excessDefaults (parameters : List (String × Option Value)) : List Int :=
  parameters.flatMap fun (_, value) =>
    match value with
    | some (.number (.integer i)) => excess i
    | _ => []

mutual

/-- The integers of a node that do not fit. -/
def Node.excess : Node → List Int
  | .text _ | .include _ _ | .inherited | .breakLoop | .continueLoop => []
  | .output expression | .assign _ _ expression => expression.excess
  | .conditional branches otherwise => excessBranches branches ++ excessNodes otherwise
  | .loop _ _ container body otherwise =>
    container.excess ++ (excessNodes body ++ excessNodes otherwise)
  | .filtered (.mk _ arguments) body => excessNamed arguments ++ excessNodes body
  | .block _ body => excessNodes body
  | .snippet _ parameters body => excessDefaults parameters ++ excessNodes body

/-- The integers of nodes that do not fit. -/
def excessNodes : List Node → List Int
  | [] => []
  | node :: rest => node.excess ++ excessNodes rest

/-- The integers of branches that do not fit. -/
def excessBranches : List (Expression × List Node) → List Int
  | [] => []
  | (condition, body) :: rest => condition.excess ++ (excessNodes body ++ excessBranches rest)

end

/-! ### Checks -/

/-- The first name of a list that is among those before it, or in `seen`. -/
def repeated? (seen : List String) : List String → Option String
  | [] => none
  | name :: rest => if seen.contains name then some name else repeated? (name :: seen) rest

namespace Document

/-- The line and the column, from one, of the end of a text. -/
def position (before : List Char) : Nat × Nat :=
  (before.count '\n' + 1, (before.reverse.takeWhile (· ≠ '\n')).length + 1)

/-- Reads a template. The grammar comes before the size of integers, and that before repeated
definitions and templates that are used but do not exist. -/
def parse (text : String) : Except TemplateFault Document := do
  let characters := text.toList
  let position (rest : List Char) : Except TemplateFault Document :=
    let (line, column) := Document.position (characters.take (characters.length - rest.length))
    .error (.malformed line column)
  match Reading.document.run characters with
  | none => position []
  | some (_, c :: rest) => position (c :: rest)
  | some (document, []) =>
    match excessNodes document.nodes with
    | i :: _ => throw (.integerOutOfRange i)
    | [] =>
      let snippets := document.snippets.map (·.1)
      if let some name := repeated? [] (blocksOf document.nodes) then throw (.repeatedBlock name)
      if let some name := repeated? [] snippets then throw (.repeatedSnippet name)
      if let some name := document.parent then throw (.missingParent name)
      if let some (name, _) := document.imports.head? then throw (.missingImport name)
      return document

end Document

end DesignTokens.Template

import DesignTokens.Proofs.Files.Spelling
import DesignTokens.Proofs.Template.Declarations
import DesignTokens.Proofs.Template.Source
import DesignTokens.Proofs.Value.Numerals

/-!
# The lines of declaration files

The templates for Swift files trim the line feed in front of each tag, so in their texts every line
below the first one comes with a line feed in front. A file has its line feeds behind the lines.
This file lists the lines of both files, `constantsLines` and `colorsLines`, and shows that the
rendered texts are these lines and nothing else. The step from one side of a line to the other is
`breaks_lines`; it is made once for the body of a file, whatever inputs and values it has.

`constants_lines` is the result for constants. It also says that no input and no value leaves a
blank line or blanks at the end of a line behind (`Tidy`), and that the text falls into exactly
these lines as long as nothing written into it brings a line feed of its own.
-/

set_option autoImplicit false

namespace DesignTokens

/-! ### Line feeds -/

namespace BundledTemplate

/-- The lines of a text, each with a line feed in front of it. -/
def breaks (content : List String) : String :=
  String.join (content.map ("\n" ++ ·))

/-- No lines are the empty text. -/
@[simp]
theorem lines_nil : lines [] = "" := rfl

/-- Every line ends with a break. -/
@[simp]
theorem lines_cons (line : String) (content : List String) :
    lines (line :: content) = line ++ "\n" ++ lines content := by
  simp [lines]

/-- The text of more lines follows that of the others. -/
@[simp]
theorem lines_append (content more : List String) :
    lines (content ++ more) = lines content ++ lines more := by
  simp [lines]

/-- No lines behind breaks are the empty text as well. -/
@[simp]
theorem breaks_nil : breaks [] = "" := rfl

/-- Each of these lines begins with its break. -/
@[simp]
theorem breaks_cons (line : String) (content : List String) :
    breaks (line :: content) = "\n" ++ line ++ breaks content := by
  simp [breaks]

/-- The text of more lines follows here too. -/
@[simp]
theorem breaks_append (content more : List String) :
    breaks (content ++ more) = breaks content ++ breaks more := by
  simp [breaks]

/-- The lines of all items are the texts of the single items in order. -/
theorem breaks_flatMap {α : Type} (items : List α) (content : α → List String) :
    breaks (items.flatMap content) = String.join (items.map fun item => breaks (content item)) := by
  induction items with
  | nil => rfl
  | cons item items ih => simp [ih]

/-- Line feeds in front of lines and one more are line feeds behind lines and one before. The
template writes the former, and a file is read as the latter. -/
theorem breaks_lines (content : List String) : breaks content ++ "\n" = "\n" ++ lines content := by
  induction content with
  | nil => rfl
  | cons line content ih => simp [String.append_assoc, ih]

/-- A text of lines is cut into these lines, unless one of them holds a line feed. Behind the last
line feed nothing is left. -/
theorem splitOn_lines_iff (content : List String) :
    Text.splitOn '\n' (lines content).toList = content.map String.toList ++ [[]] ↔
      ∀ line ∈ content, '\n' ∉ line.toList := by
  constructor
  · intro hsplit line hmem
    have hpiece : line.toList ∈ Text.splitOn '\n' (lines content).toList := by
      rw [hsplit]
      exact List.mem_append_left _ (List.mem_map_of_mem hmem)
    exact Text.not_mem_of_mem_splitOn hpiece
  · intro h
    induction content with
    | nil => rfl
    | cons line content ih =>
      have hline := Text.splitOn_of_not_mem (h line List.mem_cons_self)
      have hrest := ih fun other hmem => h other (List.mem_cons_of_mem _ hmem)
      simp [String.append_assoc, Text.splitOn_append, hline, hrest]

end BundledTemplate

/-! ### Blanks -/

/-- Whether a line holds nothing but blanks. -/
def isBlankLine (line : String) : Bool :=
  line.toList.all Text.isBlank

/-- Whether a line ends in a blank. -/
def endsInBlank (line : String) : Bool :=
  line.toList.getLast?.any Text.isBlank

/-- What starts with a character that is no blank is not blank. -/
theorem isBlankLine_append {start : String} (h : isBlankLine start = false) (rest : String) :
    isBlankLine (start ++ rest) = false := by
  have hall : isBlankLine (start ++ rest) = (isBlankLine start && isBlankLine rest) := by
    simp [isBlankLine]
  rw [hall, h, Bool.false_and]

/-- Whether a text ends in a blank depends on its last part, if this is not empty. -/
theorem endsInBlank_append {rest : String} (h : rest ≠ "") (start : String) :
    endsInBlank (start ++ rest) = endsInBlank rest := by
  have hrest : rest.toList ≠ [] := fun hnil => h (String.toList_eq_nil_iff.1 hnil)
  simp [endsInBlank, List.getLast?_append_of_ne_nil _ hrest]

/-- A line without blanks does not end in one. -/
theorem not_endsInBlank {line : String} (hne : line ≠ "")
    (h : ∀ c ∈ line.toList, Text.isBlank c = false) : endsInBlank line = false := by
  have hlist : line.toList ≠ [] := fun hnil => hne (String.toList_eq_nil_iff.1 hnil)
  simp [endsInBlank, List.getLast?_eq_getLast_of_ne_nil hlist, h _ (List.getLast_mem hlist)]

/-! ### Numbers -/

/-- No character of a number is a blank. -/
theorem not_isBlank_of_isNumeral {c : Char} (h : Json.isNumeral c = true) :
    Text.isBlank c = false := by
  simp only [Json.isNumeral, Bool.or_eq_true, decide_eq_true_eq, Char.isDigit_iff_toNat] at h
  rcases h with ((((hdigit | rfl) | rfl) | rfl) | rfl) | rfl
  · have hge : 48 ≤ c.toNat := hdigit.1
    have hle : c.toNat ≤ 57 := hdigit.2
    simp [Text.isBlank, Text.inRanges, Text.blankRanges]
    omega
  all_goals rfl

/-- Digits with a point between them consist of the characters of numerals. -/
theorem isNumeral_of_mem_positional {digits : List Char}
    (h : ∀ c ∈ digits, Json.isNumeral c = true) (places : Int) :
    ∀ c ∈ Binary64.positional digits places, Json.isNumeral c = true := by
  have hzeros (count : Nat) : ∀ c ∈ List.replicate count '0', Json.isNumeral c = true :=
    fun c hc => Json.isNumeral_of_isDigit (Json.isDigit_of_mem_replicate count c hc)
  unfold Binary64.positional
  split
  · simp only [List.forall_mem_cons, List.forall_mem_append]
    exact ⟨rfl, rfl, hzeros _, h⟩
  · split
    · exact List.forall_mem_append.2 ⟨h, hzeros _⟩
    · simp only [List.forall_mem_cons, List.forall_mem_append]
      exact ⟨fun c hc => h c (List.mem_of_mem_take hc), rfl,
        fun c hc => h c (List.mem_of_mem_drop hc)⟩

/-- A number is displayed in the characters of numerals. -/
theorem Number.isNumeral_of_mem_display {n : Number} :
    ∀ c ∈ n.display, Json.isNumeral c = true := by
  cases n with
  | integer i => exact Json.isNumeral_of_mem_encode (n := .integer i)
  | float x =>
    have hsign : ∀ c ∈ x.signText, Json.isNumeral c = true := by
      unfold Binary64.signText
      split <;> simp [Json.isNumeral]
    show ∀ c ∈ x.plain, Json.isNumeral c = true
    unfold Binary64.plain
    refine List.forall_mem_append.2 ⟨hsign, ?_⟩
    split
    · simp [Json.isNumeral]
    · exact isNumeral_of_mem_positional Json.isNumeral_of_mem_digitsOf _

/-- A number is never shown as nothing: an integer has a digit, and a float has the digits before
its point. -/
theorem Number.display_ne_nil (n : Number) : n.display ≠ [] := by
  cases n with
  | integer i =>
    show integerText i ≠ []
    unfold integerText
    split
    · exact List.cons_ne_nil _ _
    · exact Json.digitsOf_ne_nil _
  | float x =>
    show x.plain ≠ []
    unfold Binary64.plain
    refine List.append_ne_nil_of_right_ne_nil _ ?_
    split
    · exact List.cons_ne_nil _ _
    · have hdigits := Json.digitsOf_ne_nil (x.shortest .up).digits
      unfold Binary64.positional
      split
      · exact List.cons_ne_nil _ _
      · split <;> simp [hdigits]

namespace TemplatedFile

open Template BundledTemplate

/-! ### The lines of the files -/

/-- The lines of a file that imports a library, down to the one that opens its declaration. -/
def openingLines (library declaration : String) : List String :=
  ["// Generated by tokengen. Do not edit.", "", "import " ++ library, "",
    "public " ++ declaration ++ " \x7b"]

/-- The line of a description, if it is there and not empty. -/
def commentLines (description : Option String) : List String :=
  (description.filter (· ≠ "")).toList.map ("        /// " ++ ·)

/-- The line that declares a constant. -/
def constantLine (token : TokenValue) : String :=
  "        public static let " ++ identifier token.name ++ " = " ++ literal token.entry.value

/-- The lines of a value: its description, and the constant. -/
def constantLines (token : TokenValue) : List String :=
  commentLines token.entry.description ++ [constantLine token]

/-- The lines of an input: an enumeration around its values. -/
def enumerationLines (input : Value × List TokenValue) : List String :=
  ("    public enum " ++ objectName (paramsOf input.1) "Values" ++ " \x7b") ::
    (input.2.flatMap constantLines ++ ["    \x7d"])

/-- The lines of a file of constants. -/
def constantsLines (output : Value) (inputs : List (Value × List TokenValue)) : List String :=
  openingLines "Foundation" ("enum " ++ objectName (paramsOf output) "DesignTokens") ++
    (inputs.flatMap enumerationLines ++ ["\x7d"])

/-- The line that declares a colour. -/
def colorLine (token : TokenValue) : String :=
  "    static let " ++ colorIdentifier token.name ++ " = Color(\"" ++ token.name ++ "\")"

/-- The lines of a file of colours, in which inputs do not show. -/
def colorsLines (inputs : List (Value × List TokenValue)) : List String :=
  openingLines "SwiftUI" "extension Color" ++
    ((inputs.flatMap (·.2)).map colorLine ++ ["\x7d"])

/-- The text of a file around its body. The head, the declaration and the closing brace are the
same in both files, so the two templates share this. -/
theorem lines_file (library declaration : String) (body : List String) :
    lines (openingLines library declaration ++ (body ++ ["\x7d"])) =
      fileHead library ++ declaration ++ " \x7b" ++ breaks body ++ "\n\x7d\n" := by
  have hopening : lines (openingLines library declaration) =
      fileHead library ++ declaration ++ " \x7b" ++ "\n" := by
    have hhead : fileHead library =
        "// Generated by tokengen. Do not edit." ++ ("\n" ++ ("\n" ++ "import ")) ++ library ++
          ("\n" ++ ("\n" ++ "public ")) := rfl
    simp only [hhead, openingLines, lines_cons, lines_nil, String.append_assoc,
      String.empty_append, String.append_empty]
  have hclosing : lines ["\x7d"] = "\x7d\n" := rfl
  have hbreak : "\n" ++ "\x7d\n" = "\n\x7d\n" := rfl
  calc lines (openingLines library declaration ++ (body ++ ["\x7d"]))
      = fileHead library ++ declaration ++ " \x7b" ++ ("\n" ++ lines body) ++ "\x7d\n" := by
        simp only [lines_append, hopening, hclosing, String.append_assoc]
    _ = fileHead library ++ declaration ++ " \x7b" ++ (breaks body ++ "\n") ++ "\x7d\n" := by
        rw [breaks_lines]
    _ = fileHead library ++ declaration ++ " \x7b" ++ breaks body ++ "\n\x7d\n" := by
        simp only [String.append_assoc, hbreak]

/-! ### The texts are these lines -/

/-- The lines of a comment are what the template writes for a description. -/
theorem breaks_commentLines (description : Option String) :
    breaks (commentLines description) = commentText description := by
  cases description with
  | none => rfl
  | some text =>
    by_cases hempty : text = ""
    · subst hempty
      rfl
    · have hlines : commentLines (some text) = ["        /// " ++ text] := by
        simp [commentLines, hempty]
      have htext : commentText (some text) = String.join ["\n" ++ "        /// ", text] := by
        simp [commentText, hempty]
      simp only [hlines, htext, breaks_cons, breaks_nil, String.join_cons, String.join_nil,
        String.append_assoc]

/-- The lines of a constant are the pieces that the template writes for it. -/
theorem breaks_constantLines (token : TokenValue) :
    breaks (constantLines token) = String.join (constantPieces token) := by
  have hline : constantLine token =
      "        public static let " ++ identifier token.name ++ " = " ++ literal token.entry.value :=
    rfl
  have hpieces : constantPieces token =
      [commentText token.entry.description, "\n" ++ "        public static let ",
        identifier token.name, " = ", literal token.entry.value] := rfl
  simp only [hpieces, constantLines, hline, breaks_append, breaks_commentLines, breaks_cons,
    breaks_nil, String.join_cons, String.join_nil, String.append_assoc, -String.reduceAppend]

/-- The lines of an enumeration are the pieces that the template writes for an input. -/
theorem breaks_enumerationLines (input : Value × List TokenValue) :
    breaks (enumerationLines input) = String.join (enumerationPieces input) := by
  have hpieces : enumerationPieces input =
      ["\n" ++ "    public enum ", objectName (paramsOf input.1) "Values", " \x7b",
        String.join (input.2.map fun token => String.join (constantPieces token)),
        "\n" ++ "    \x7d"] := rfl
  simp only [hpieces, enumerationLines, breaks_append, breaks_cons, breaks_nil, breaks_flatMap,
    breaks_constantLines, String.join_cons, String.join_nil, String.append_assoc,
    -String.reduceAppend]

/-- The text of the constants is cut into its lines. -/
theorem constantsText_eq (output : Value) (inputs : List (Value × List TokenValue)) :
    constantsText output inputs = lines (constantsLines output inputs) := by
  rw [constantsLines, lines_file, breaks_flatMap]
  simp only [constantsText, breaks_enumerationLines, String.join_cons, String.join_nil,
    String.append_assoc, String.append_empty]

/-- The line of a colour is the pieces that the template writes for it. -/
theorem breaks_colorLine (token : TokenValue) :
    "\n" ++ colorLine token = String.join (colorPieces token) := by
  have hline : colorLine token =
      "    static let " ++ colorIdentifier token.name ++ " = Color(\"" ++ token.name ++ "\")" := rfl
  have hpieces : colorPieces token =
      ["\n" ++ "    static let ", colorIdentifier token.name, " = Color(\"", token.name, "\")"] :=
    rfl
  simp only [hpieces, hline, String.join_cons, String.join_nil, String.append_assoc,
    String.append_empty, -String.reduceAppend]

/-- The text of the colours is cut into its lines. -/
theorem colorsText_eq (inputs : List (Value × List TokenValue)) :
    colorsText inputs = lines (colorsLines inputs) := by
  have hbody : breaks ((inputs.flatMap (·.2)).map colorLine) =
      String.join (inputs.map fun input =>
        String.join (input.2.map fun token => String.join (colorPieces token))) := by
    rw [List.map_flatMap, breaks_flatMap]
    simp only [breaks, List.map_map, Function.comp_def, breaks_colorLine]
  have hopening : "extension Color \x7b" = "extension Color" ++ " \x7b" := rfl
  rw [colorsLines, lines_file, hbody]
  simp only [colorsText, hopening, String.join_cons, String.join_nil, String.append_assoc,
    String.append_empty]

/-! ### Blanks in a file of constants -/

/-- A comment has a line exactly for a description that is not empty. -/
theorem mem_commentLines_iff {description : Option String} {line : String} :
    line ∈ commentLines description ↔
      ∃ text ∈ description, text ≠ "" ∧ line = "        /// " ++ text := by
  cases description with
  | none => simp [commentLines]
  | some text =>
    by_cases hempty : text = ""
    · simp [commentLines, hempty]
    · simp [commentLines, hempty]
      exact eq_comm

/-- A line of the body of a file of constants opens or closes an enumeration or belongs to a
value. -/
theorem mem_enumerations {inputs : List (Value × List TokenValue)} {line : String}
    (h : line ∈ inputs.flatMap enumerationLines) :
    (∃ name, line = "    public enum " ++ name ++ " \x7b") ∨ line = "    \x7d" ∨
      ∃ token ∈ inputs.flatMap (·.2), line ∈ constantLines token := by
  obtain ⟨input, hinput, hline⟩ := List.mem_flatMap.1 h
  rcases List.mem_cons.1 hline with rfl | hline
  · exact .inl ⟨_, rfl⟩
  rcases List.mem_append.1 hline with hline | hline
  · obtain ⟨token, htoken, hline⟩ := List.mem_flatMap.1 hline
    exact .inr (.inr ⟨token, List.mem_flatMap.2 ⟨input, hinput, htoken⟩, hline⟩)
  · exact .inr (.inl (List.mem_singleton.1 hline))

/-- No line of a constant is blank, for it holds its comment, its name or its value. -/
theorem isBlankLine_of_mem_constantLines {token : TokenValue} {line : String}
    (h : line ∈ constantLines token) : isBlankLine line = false := by
  rcases List.mem_append.1 h with hcomment | hconstant
  · obtain ⟨text, -, -, rfl⟩ := mem_commentLines_iff.1 hcomment
    exact isBlankLine_append (by decide) text
  · obtain rfl := List.mem_singleton.1 hconstant
    have hstart : isBlankLine "        public static let " = false := by decide
    exact isBlankLine_append (isBlankLine_append (isBlankLine_append hstart _) _) _

/-- Of the lines that open the file the second and the fourth are blank. -/
theorem blank_openingLines (declaration : String) :
    (openingLines "Foundation" declaration).filter isBlankLine = ["", ""] := by
  have hdeclaration : isBlankLine ("public " ++ declaration ++ " \x7b") = false :=
    isBlankLine_append (isBlankLine_append (by decide) declaration) _
  show [_, _, _, _, "public " ++ declaration ++ " \x7b"].filter isBlankLine = ["", ""]
  simp only [List.filter_cons, hdeclaration]
  rfl

/-- Below the lines that open the file no line is blank. -/
theorem isBlankLine_of_mem_enumerations {inputs : List (Value × List TokenValue)} {line : String}
    (h : line ∈ inputs.flatMap enumerationLines) : isBlankLine line = false := by
  rcases mem_enumerations h with ⟨name, rfl⟩ | rfl | ⟨token, -, hline⟩
  · have hstart : isBlankLine "    public enum " = false := by decide
    exact isBlankLine_append (isBlankLine_append hstart name) _
  · decide
  · exact isBlankLine_of_mem_constantLines hline

/-- Only null has an empty literal, and no literal ends in a blank: a text is quoted, a list or an
object closes its bracket, and a number or a truth value ends in a digit or a letter. -/
theorem literal_ends {value : Value} (h : value ≠ .null) :
    literal value ≠ "" ∧ endsInBlank (literal value) = false := by
  cases value with
  | null => exact absurd rfl h
  | bool b => cases b <;> decide
  | number n =>
    have hne : String.ofList n.display ≠ "" := by
      simpa using n.display_ne_nil
    refine ⟨hne, not_endsInBlank hne fun c hc => ?_⟩
    replace hc : c ∈ n.display := by simpa [literal, Value.display] using hc
    exact not_isBlank_of_isNumeral (Number.isNumeral_of_mem_display c hc)
  | string s =>
    have hends : endsInBlank ("\"" ++ s ++ "\"") = false := endsInBlank_append (by decide) _
    refine ⟨fun hempty => ?_, hends⟩
    have hlist := congrArg String.toList hempty
    simp [literal] at hlist
  | array items =>
    have hlist : (literal (.array items)).toList =
        '[' :: (Value.displayItems true items ++ [']']) := String.toList_ofList
    refine ⟨fun hempty => ?_, ?_⟩
    · rw [hempty] at hlist
      cases hlist
    · rw [endsInBlank, hlist, ← List.cons_append, List.getLast?_concat]
      rfl
  | object members =>
    -- a mapping has one literal, whatever it holds
    have hliteral : literal (.object members) = "[object]" := rfl
    rw [hliteral]
    decide

/-- The line of a constant ends in a blank only if its value is null. -/
theorem endsInBlank_constantLine {token : TokenValue}
    (h : endsInBlank (constantLine token) = true) : token.entry.value = .null := by
  by_contra hvalue
  obtain ⟨hne, hends⟩ := literal_ends hvalue
  have hline : endsInBlank (constantLine token) = endsInBlank (literal token.entry.value) :=
    endsInBlank_append hne _
  rw [hline, hends] at h
  cases h

/-- A line of a value ends in a blank only if the value is null or its description ends in one. -/
theorem trailing_constantLines {token : TokenValue} {line : String}
    (h : line ∈ constantLines token) (hends : endsInBlank line = true) :
    (line = constantLine token ∧ token.entry.value = .null) ∨
      ∃ text ∈ token.entry.description, line = "        /// " ++ text ∧
        endsInBlank text = true := by
  rcases List.mem_append.1 h with hcomment | hconstant
  · obtain ⟨text, htext, hne, rfl⟩ := mem_commentLines_iff.1 hcomment
    rw [endsInBlank_append hne] at hends
    exact .inr ⟨text, htext, rfl, hends⟩
  · obtain rfl := List.mem_singleton.1 hconstant
    exact .inl ⟨rfl, endsInBlank_constantLine hends⟩

/-- The lines that open the file do not end in blanks; the name of the object is followed by a
brace. -/
theorem endsInBlank_of_mem_openingLines {declaration line : String}
    (h : line ∈ openingLines "Foundation" declaration) : endsInBlank line = false := by
  simp only [openingLines, List.mem_cons, List.not_mem_nil, or_false] at h
  rcases h with rfl | rfl | rfl | rfl | rfl
  · decide
  · decide
  · decide
  · decide
  · exact endsInBlank_append (by decide) _

/-- What brings blanks into the lines of a file: two blank lines stand at its top, and a line ends
in a blank only if it declares null or its description ends in one. -/
structure Tidy (values : List TokenValue) (content : List String) : Prop where
  blank : content.filter isBlankLine = ["", ""]
  trailing : ∀ line ∈ content, endsInBlank line = true → ∃ token ∈ values,
    (line = constantLine token ∧ token.entry.value = .null) ∨
      ∃ text ∈ token.entry.description, line = "        /// " ++ text ∧ endsInBlank text = true

/-- The text of the constants is tidy: no line of its declarations is blank, and one of them ends in
a blank only over a null or over the description of its value. -/
theorem tidy_constantsLines (output : Value) (inputs : List (Value × List TokenValue)) :
    Tidy (inputs.flatMap (·.2)) (constantsLines output inputs) where
  blank := by
    have hbody : (inputs.flatMap enumerationLines).filter isBlankLine = [] := by
      refine List.filter_eq_nil_iff.2 fun line hmem => ?_
      rw [isBlankLine_of_mem_enumerations hmem]
      exact Bool.false_ne_true
    have hclosing : ["\x7d"].filter isBlankLine = [] := by decide
    rw [constantsLines, List.filter_append, List.filter_append, blank_openingLines, hbody, hclosing]
    rfl
  trailing := by
    intro line hmem hends
    rcases List.mem_append.1 hmem with hopening | hmem
    · rw [endsInBlank_of_mem_openingLines hopening] at hends
      cases hends
    rcases List.mem_append.1 hmem with hbody | hclosing
    · rcases mem_enumerations hbody with ⟨name, rfl⟩ | rfl | ⟨token, htoken, hline⟩
      · rw [endsInBlank_append (by decide)] at hends
        cases hends
      · cases hends
      · exact ⟨token, htoken, trailing_constantLines hline hends⟩
    · obtain rfl := List.mem_singleton.1 hclosing
      cases hends

/-- The template of constants renders, for any inputs with any values and any parameters, to the
lines of the file of constants. They are tidy, and the text is cut into exactly these lines unless
something that is written into one of them holds a line feed. -/
theorem constants_lines [Engine] (output : Value) (inputs : List (Value × List TokenValue)) :
    ∃ text, Template.render constants.name constants.content
        (context (shownAll inputs) output) = .ok text ∧
      text = lines (constantsLines output inputs) ∧
      Tidy (inputs.flatMap (·.2)) (constantsLines output inputs) ∧
      (Text.splitOn '\n' text.toList =
          (constantsLines output inputs).map String.toList ++ [[]] ↔
        ∀ line ∈ constantsLines output inputs, '\n' ∉ line.toList) := by
  refine ⟨constantsText output inputs, ?_, constantsText_eq output inputs,
    tidy_constantsLines output inputs, ?_⟩
  · exact Template.render_eq_ok_iff.2 (renderText_constants output inputs)
  · rw [constantsText_eq]
    exact splitOn_lines_iff _

example : constantsLines .null [(.null, []), (.null, [⟨"2x", "flag", .bool true, some "Two"⟩])] =
    ["// Generated by tokengen. Do not edit.", "", "import Foundation", "",
      "public enum DesignTokens \x7b", "    public enum Values \x7b", "    \x7d",
      "    public enum Values \x7b", "        /// Two", "        public static let _2x = true",
      "    \x7d", "\x7d"] := by
  decide +kernel

end TemplatedFile

end DesignTokens

import DesignTokens.Generate.TemplatedFile
import DesignTokens.Proofs.Template.Writes

/-!
# The texts of declaration files

The two bundled templates for Swift files render in the context of an entry of the section
`files`: a list of inputs with their values, and the parameters of the output. This file states
the text that comes out, for any inputs and any parameters: `renderText_constants` and
`renderText_colors`. Every path of these templates leads into a value, has a fallback or is a
condition, so nothing that a token document holds can make them fail.
-/

set_option autoImplicit false

namespace DesignTokens.TemplatedFile

open Template BundledTemplate

/-! ### Texts -/

/-- The name of an object that parameters give, or another one. -/
def objectName (params : Value) (other : String) : String :=
  String.ofList (Scope.orText other (step? params "objectName")).display

/-- An identifier for a name: one that starts with a digit gets an underscore in front. -/
def identifier (name : String) : String :=
  if name.toList.head?.any Text.isNumeric then "_" ++ name else name

/-- The identifier of a colour, which is none of the reserved ones. -/
def colorIdentifier (name : String) : String :=
  if FilterFunction.colorNames.contains (identifier name) then
    "token" ++ upperFirst (identifier name)
  else identifier name

/-- A literal for a value: strings stand between quotes. -/
def literal : Value → String
  | .string s => "\"" ++ s ++ "\""
  | other => String.ofList other.display

/-- The comment of a constant, if it has one. -/
def commentText : Option String → String
  | none => ""
  | some text => if text.isEmpty then "" else String.join ["\n        /// ", text]

/-- The declaration of a constant. -/
def constantPieces (token : TokenValue) : List String :=
  [commentText token.entry.description, "\n        public static let ", identifier token.name,
    " = ", literal token.entry.value]

/-- The enumeration of an input with its values. -/
def enumerationPieces (input : Value × List TokenValue) : List String :=
  ["\n    public enum ", objectName (paramsOf input.1) "Values", " \x7b",
    String.join (input.2.map fun token => String.join (constantPieces token)), "\n    \x7d"]

/-- The file of constants for inputs with their values. -/
def constantsText (output : Value) (inputs : List (Value × List TokenValue)) : String :=
  String.join
    [fileHead "Foundation" ++ "enum ", objectName (paramsOf output) "DesignTokens", " \x7b",
      String.join (inputs.map fun input => String.join (enumerationPieces input)), "\n\x7d\n"]

/-- The declaration of a colour. -/
def colorPieces (token : TokenValue) : List String :=
  ["\n    static let ", colorIdentifier token.name, " = Color(\"", token.name, "\")"]

/-- The file of colours for inputs with their values. -/
def colorsText (inputs : List (Value × List TokenValue)) : String :=
  String.join
    [fileHead "SwiftUI" ++ "extension Color \x7b",
      String.join (inputs.map fun input =>
        String.join [String.join (input.2.map fun token => String.join (colorPieces token))]),
      "\n\x7d\n"]

/-! ### Scopes -/

/-- What the template of an output sees of inputs with their values. -/
def shownAll (inputs : List (Value × List TokenValue)) : List Value :=
  inputs.map fun input => shown input.1 input.2

section
variable (inputs : List (Value × List TokenValue)) (output : Value)

/-- The scope of a file. -/
abbrev fileScope : Scope :=
  ⟨[], [], context (shownAll inputs) output, false⟩

/-- The scope inside the loop over the inputs. -/
abbrev inputScope (count index : Nat) (input : Value × List TokenValue) : Scope :=
  (fileScope inputs output).inside
    (loopAt none "input" count index (none, shown input.1 input.2))

/-- Inside the loop over the inputs, their values are found. -/
theorem resolve_inputValues (count index : Nat) (input : Value × List TokenValue) :
    (inputScope inputs output count index input).resolve "input.values" =
      .ok (.array (input.2.map TokenValue.toValue)) := by
  have hpath : Spells "input.values" "input" ["values"] := by decide
  exact Scope.resolve_inside_item hpath (by decide) rfl rfl rfl _

/-- The inputs are found outside of loops. -/
theorem resolve_inputs :
    (fileScope inputs output).resolve "inputs" = .ok (.array (shownAll inputs)) := by
  have hpath : Spells "inputs" "inputs" [] := by decide
  exact Scope.resolve_context hpath rfl rfl

/-- Outside of loops the parameters are those of the output. -/
theorem writes_outputName [Engine] (other : String) :
    (print "params.objectName" [orElse other]).Writes (fileScope inputs output)
      (objectName (paramsOf output) other) := by
  have hpath : Spells "params.objectName" "params" ["objectName"] := by decide
  have hvalue : (fileScope inputs output).valueOr "params.objectName" other =
      Scope.orText other (step? (paramsOf output) "objectName") := by
    rw [Scope.valueOr_eq hpath, Scope.find?_context hpath]
    simp [context, List.lookup_cons]
  have hwrites := writes_orElse "params.objectName" other (fileScope inputs output)
  rwa [hvalue] at hwrites

/-- A name that only loops could know is unknown outside of them. -/
theorem find?_value {path : String} {keys : List String} (h : Spells path "value" keys)
    (count index : Nat) (input : Value × List TokenValue) :
    (inputScope inputs output count index input).find? path.toList = none := by
  rw [Scope.find?_inside_other h (by decide) rfl (show "value" ≠ "input" by decide)
      (by simp [loopAt]),
    Scope.find?_context h]
  simp [context, List.lookup_cons]

/-- Inside the loop over the inputs the parameters of the input are found. If they give no name, the
other one is written. -/
theorem writes_inputName [Engine] (other : String) (count index : Nat)
    (input : Value × List TokenValue) :
    (print "input.params.objectName" [orElse other]).Writes
      (inputScope inputs output count index input) (objectName (paramsOf input.1) other) := by
  have hpath : Spells "input.params.objectName" "input" ["params", "objectName"] := by
    decide
  have houter : (fileScope inputs output).find? "input.params.objectName".toList = none := by
    rw [Scope.find?_context hpath]
    simp [context, List.lookup_cons]
  have hfind : (inputScope inputs output count index input).find?
      "input.params.objectName".toList = step? (paramsOf input.1) "objectName" := by
    rw [Scope.find?_inside_item hpath (by decide) rfl rfl, houter]
    simp [loopAt, shown]
  have hwrites := writes_orElse "input.params.objectName" other
    (inputScope inputs output count index input)
  rwa [Scope.valueOr_eq hpath, hfind] at hwrites

end

/-! ### Values -/

/-- The declared value of a leaf as an object. -/
theorem lookup_value (entry : Entry) : step? entry.toValue "value" = some entry.value := by
  obtain ⟨kind, value, description⟩ := entry
  cases description <;> simp [Entry.toValue, List.lookup_cons]

/-- The description of a leaf as an object. -/
theorem lookup_description (entry : Entry) :
    step? entry.toValue "description" = entry.description.map .string := by
  obtain ⟨kind, value, description⟩ := entry
  cases description <;> simp [Entry.toValue, List.lookup_cons]

/-- A loop that has just come to a value under the name `value`. -/
structure AtValue (loop : Loop) (token : TokenValue) : Prop where
  assigned : loop.assigned = []
  name : loop.valueName = "value"
  value : loop.value = token.toValue

namespace AtValue

variable {scope : Scope} {loop : Loop} {token : TokenValue}

/-- A path into the value is found there. -/
theorem resolve (h : AtValue loop token) {path : String} {keys : List String} {value : Value}
    (hpath : Spells path "value" keys) (hsteps : stepAll? token.toValue keys = some value) :
    (scope.inside loop).resolve path = .ok value := by
  apply Scope.resolve_inside_item hpath (by decide) h.assigned h.name
  rw [h.value]
  exact hsteps

variable [Engine]

/-- The name of the value that a pass is at is written as it stands. -/
theorem writes_name (h : AtValue loop token) :
    (print "value.name" []).Writes (scope.inside loop) token.name := by
  have hpath : Spells "value.name" "value" ["name"] := by decide
  exact writes_print_text (h.resolve hpath rfl)

/-- Behind the filter for leading digits it is written as an identifier. -/
theorem writes_identifier (h : AtValue loop token) :
    (print "value.name" [.mk "escape_leading_digit" []]).Writes (scope.inside loop)
      (identifier token.name) := by
  have hpath : Spells "value.name" "value" ["name"] := by decide
  exact writes_output_text (means_filtered (h.resolve hpath rfl) (by decide) rfl (fun _ => rfl)
    rfl (fun _ => rfl))

/-- With the filter that avoids reserved names behind that one, it is the identifier of a colour. -/
theorem writes_colorIdentifier (h : AtValue loop token) :
    (print "value.name" [.mk "escape_leading_digit" [],
      .mk "prefix_color" [("prefix", .ofTerm (.string "token"))]]).Writes (scope.inside loop)
      (colorIdentifier token.name) := by
  have hpath : Spells "value.name" "value" ["name"] := by decide
  exact writes_output_text (means_filtered (h.resolve hpath rfl) (by decide) rfl (fun _ => rfl)
    rfl (fun _ => rfl))

/-- The value itself is written as a literal. The filter quotes a text and leaves all other values,
which are then shown as they are. -/
theorem writes_literal (h : AtValue loop token) :
    (print "value.entry.value" [.mk "quote" []]).Writes (scope.inside loop)
      (literal token.entry.value) := by
  have hpath : Spells "value.entry.value" "value" ["entry", "value"] := by decide
  have hsteps : stepAll? token.toValue ["entry", "value"] = some token.entry.value := by
    rw [stepAll?_cons, show step? token.toValue "entry" = some token.entry.toValue from rfl]
    simp [lookup_value]
  have hmeans (after : Value) (hquote : FilterFunction.quote [] token.entry.value = .ok after) :
      Expression.Means (.mk false (.variable "value.entry.value") [.mk "quote" []])
        (scope.inside loop) after :=
    means_filtered (h.resolve hpath hsteps) (by decide) rfl (fun _ => rfl) hquote (fun _ => rfl)
  cases hvalue : token.entry.value with
  | string s => exact writes_output_text (hmeans _ (by rw [hvalue]; rfl))
  | null => exact writes_output (hmeans _ (by rw [hvalue]; rfl))
  | bool b => exact writes_output (hmeans _ (by rw [hvalue]; rfl))
  | number n => exact writes_output (hmeans _ (by rw [hvalue]; rfl))
  | array items => exact writes_output (hmeans _ (by rw [hvalue]; rfl))
  | object members => exact writes_output (hmeans _ (by rw [hvalue]; rfl))

/-- The comment is there if the value has a description that is not empty. The scope around the
loop must not know the path, because it is asked when the value has no description. -/
theorem writes_comment (h : AtValue loop token)
    (houter : scope.find? "value.entry.description".toList = none) :
    (whenHolds "value.entry.description"
      [.text "\n        /// ", print "value.entry.description" []]).Writes (scope.inside loop)
      (commentText token.entry.description) := by
  have hpath : Spells "value.entry.description" "value" ["entry", "description"] := by
    decide
  have hfind : (scope.inside loop).find? "value.entry.description".toList =
      token.entry.description.map .string := by
    rw [Scope.find?_inside_item hpath (by decide) h.assigned h.name, h.value, houter,
      stepAll?_cons, show step? token.toValue "entry" = some token.entry.toValue from rfl]
    simp [lookup_description]
  have hholds : (scope.inside loop).holds "value.entry.description" =
      token.entry.description.any fun text => !text.isEmpty := by
    rw [Scope.holds_eq hpath, hfind]
    cases token.entry.description <;> rfl
  cases hdescription : token.entry.description with
  | none => exact writes_whenHolds_not _ (by rw [hholds, hdescription]; rfl)
  | some text =>
    rw [hdescription] at hholds hfind
    simp only [commentText]
    -- an empty description counts as none
    cases hempty : text.isEmpty with
    | true => exact writes_whenHolds_not _ (by rw [hholds]; simp [hempty])
    | false =>
      rw [if_neg Bool.false_ne_true]
      refine writes_whenHolds (by rw [hholds]; simp [hempty]) ?_
      exact writes_cons (writes_text _ _)
        (writes_cons (writes_print_text (Scope.resolve_of_find? hpath hfind)) (writes_nil _))

/-- The nodes of a constant write its declaration. -/
theorem writes_constant (h : AtValue loop token)
    (houter : scope.find? "value.entry.description".toList = none) :
    Writes constantNodes (scope.inside loop) (constantPieces token) :=
  writes_cons (h.writes_comment houter) (writes_cons (writes_text _ _)
    (writes_cons h.writes_identifier (writes_cons (writes_text _ _)
      (writes_cons h.writes_literal (writes_nil _)))))

/-- The nodes of a colour write its declaration. -/
theorem writes_color (h : AtValue loop token) :
    Writes colorConstantNodes (scope.inside loop) (colorPieces token) :=
  writes_cons (writes_text _ _) (writes_cons h.writes_colorIdentifier
    (writes_cons (writes_text _ _) (writes_cons h.writes_name (writes_cons (writes_text _ _)
      (writes_nil _)))))

end AtValue

/-- Each item of the loop over values is at its value. -/
theorem atValue_loopAt (count index : Nat) (token : TokenValue) :
    AtValue (loopAt none "value" count index (none, token.toValue)) token :=
  ⟨rfl, rfl, rfl⟩

/-! ### Files -/

section
variable [Engine] (output : Value) (inputs : List (Value × List TokenValue))

/-- The template of constants renders for all inputs and all parameters. The proof follows its
nodes: two loops, one in the other, and in each of them the pieces of text and the tags in their
order. -/
theorem renderText_constants :
    renderText constantsContent (context (shownAll inputs) output) =
      .ok (constantsText output inputs) := by
  apply renderText_of_writes parse_constantsContent
  refine writes_cons (writes_text _ _) (writes_cons (writes_outputName inputs output _)
    (writes_cons (writes_text _ _) (writes_cons ?_ (writes_cons (writes_text _ _)
      (writes_nil _)))))
  refine writes_forEach enumerationPieces (resolve_inputs inputs output) ?_
  intro i input _
  refine writes_cons (writes_text _ _) (writes_cons (writes_inputName inputs output _ _ _ _)
    (writes_cons (writes_text _ _) (writes_cons ?_ (writes_cons (writes_text _ _)
      (writes_nil _)))))
  refine writes_forEach constantPieces (resolve_inputValues inputs output _ _ _) ?_
  intro j token _
  have hpath : Spells "value.entry.description" "value" ["entry", "description"] := by
    decide
  exact (atValue_loopAt _ _ token).writes_constant (find?_value inputs output hpath _ _ _)

/-- The template of colours renders for all inputs and all parameters. It prints nothing of an input
but its values, so only the inner loop writes. -/
theorem renderText_colors :
    renderText colorsContent (context (shownAll inputs) output) = .ok (colorsText inputs) := by
  apply renderText_of_writes parse_colorsContent
  refine writes_cons (writes_text _ _) (writes_cons ?_ (writes_cons (writes_text _ _)
    (writes_nil _)))
  refine writes_forEach _ (resolve_inputs inputs output) ?_
  intro i input _
  refine writes_cons ?_ (writes_nil _)
  refine writes_forEach colorPieces (resolve_inputValues inputs output _ _ _) ?_
  intro j token _
  exact (atValue_loopAt _ _ token).writes_color

end

end DesignTokens.TemplatedFile

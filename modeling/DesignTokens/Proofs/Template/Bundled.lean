import DesignTokens.Proofs.Template.Same
import DesignTokens.Template.Bundled
import DesignTokens.Template.Calls

/-!
# What the bundled templates read as

Each bundled template is a text, and a run parses it anew for each file. This file writes the
five templates out as nodes and proves that the texts parse to them, so that no later proof looks
at the grammar again. The statements are `parse_infoContent`, `parse_colorContent`,
`parse_imageContent`, `parse_constantsContent` and `parse_colorsContent`. None of the nodes calls a
function (`functionsOf_content`).

A text is compared with its nodes by computation: `readsAs` runs the grammar and compares
structurally, and `parse_of_readsAs` turns the Boolean into an equation of `Document.parse`. The
characters are spelled out before the comparison (`toList_lines`, `toList_spelled`), because a list
of characters computes faster than a text.
-/

set_option autoImplicit false

namespace DesignTokens

namespace Template

/-- The document of nodes that extend nothing and import nothing. -/
def Document.ofNodes (nodes : List Node) : Document :=
  ⟨nodes, none, []⟩

/-- Whether characters read as nodes, to their end. -/
def readsAs (characters : List Char) (nodes : List Node) : Bool :=
  match Reading.document.run characters with
  | some (document, []) =>
    sameNodes document.nodes nodes && (document.parent.isNone && document.imports.isEmpty)
  | _ => false

/-- A text that reads as nodes, with integers in range and no name defined twice, parses to the
document of these nodes. -/
theorem parse_of_readsAs {text : String} {nodes : List Node}
    (hreads : readsAs text.toList nodes = true)
    (hexcess : excessNodes nodes = [])
    (hblocks : repeated? [] (blocksOf nodes) = none)
    (hsnippets : repeated? [] ((Document.ofNodes nodes).snippets.map (·.1)) = none) :
    Document.parse text = .ok (Document.ofNodes nodes) := by
  unfold readsAs at hreads
  split at hreads
  · rename_i document hrun
    simp only [Bool.and_eq_true, Option.isNone_iff_eq_none, List.isEmpty_iff] at hreads
    obtain ⟨hsame, hparent, himports⟩ := hreads
    have hdocument : document = Document.ofNodes nodes := by
      obtain ⟨found, parent, imports⟩ := document
      simp only at hsame hparent himports
      rw [Document.ofNodes, eq_of_sameNodes hsame, hparent, himports]
    subst hdocument
    have hnodes : (Document.ofNodes nodes).nodes = nodes := rfl
    simp only [Document.parse, hrun, hnodes, hexcess, hblocks, hsnippets]
    rfl
  · cases hreads

end Template

namespace BundledTemplate

open Template

/-- The characters of lines: those of each line with a line feed behind it. -/
theorem toList_lines (content : List String) :
    (lines content).toList = content.flatMap fun line => line.toList ++ ['\n'] := by
  simp [lines, String.toList_join, List.flatMap_map]

/-- The characters of a text that is spelled out. As a rewrite rule it applies to every literal,
since a literal unfolds to the text of its characters. -/
theorem toList_spelled (characters : List Char) :
    (no_index (String.ofList characters)).toList = characters :=
  String.toList_ofList

/-! ### Parts of nodes -/

/-- The output of what a path leads to, under filters. -/
def print (path : String) (filters : List Filter) : Template.Node :=
  .output (.mk false (.variable path) filters)

/-- The filter that puts a text in the place of what is null or unknown. -/
def orElse (other : String) : Filter :=
  .mk "default" [("value", .ofTerm (.string other))]

/-- A body that is there if what a path leads to holds. -/
def whenHolds (path : String) (body : List Template.Node) : Template.Node :=
  .conditional [(.ofTerm (.variable path), body)] []

/-- A body for each item of the array that a path leads to. -/
def forEach (name path : String) (body : List Template.Node) : Template.Node :=
  .loop none name (.ofTerm (.variable path)) body []

/-! ### Manifests -/

/-- The nodes of the manifest at the root of a catalog. -/
def infoNodes : List Template.Node :=
  [.text "\x7b\n  \"info\" : \x7b\n    \"author\" : \"xcode\",\n    \"version\" : 1\n  \x7d\n\x7d\n"]

/-- The nodes of the root manifest's template are what its text parses to. The text is first turned
into a list of characters, line by line, so that the reader can be run on it by evaluation. -/
theorem parse_infoContent : Document.parse infoContent = .ok (.ofNodes infoNodes) := by
  refine parse_of_readsAs ?_ rfl rfl rfl
  rw [infoContent, toList_lines]
  simp only [List.flatMap_cons, List.flatMap_nil, toList_spelled, List.cons_append,
    List.nil_append, List.append_nil]
  decide +kernel

/-- The path of a channel of an appearance. -/
def channelPath (appearance channel : String) : String :=
  "color." ++ appearance ++ ".rgba." ++ channel

/-- What a colour manifest says of an appearance, from the name of its colour space on. -/
def appearanceNodes (appearance : String) : List Template.Node :=
  [print "params.colorSpace" [orElse "srgb"],
    .text "\",\n        \"components\" : \x7b\n          \"alpha\" : \"",
    print (channelPath appearance "alpha") [],
    .text "\",\n          \"blue\" : \"",
    print (channelPath appearance "blue") [],
    .text "\",\n          \"green\" : \"",
    print (channelPath appearance "green") [],
    .text "\",\n          \"red\" : \"",
    print (channelPath appearance "red") [],
    .text "\"\n        \x7d\n      \x7d,\n      \"idiom\" : \"universal\"\n    \x7d"]

/-- The text in front of a dark block, up to the place where the two kinds of manifests differ. -/
def darkHead : String :=
  ",\n    \x7b\n      \"appearances\" : [\n        \x7b\n" ++
    "          \"appearance\" : \"luminosity\",\n          \"value\" : \"dark\"\n" ++
    "        \x7d\n      ],\n      "

/-- The text behind the blocks of a manifest, up to the end of what it says of itself. -/
def infoTail : String :=
  "\n  ],\n  \"info\" : \x7b\n    \"author\" : \"xcode\",\n    \"version\" : 1\n  \x7d"

/-- The nodes of the manifest of a colour. -/
def colorNodes : List Template.Node :=
  .text ("\x7b\n  \"colors\" : [\n    \x7b\n      \"color\" : \x7b\n" ++
      "        \"color-space\" : \"") ::
    (appearanceNodes "any" ++
      [whenHolds "color.dark"
          (.text (darkHead ++ "\"color\" : \x7b\n        \"color-space\" : \"") ::
            appearanceNodes "dark"),
        .text (infoTail ++ "\n\x7d\n")])

/-- The nodes of the template for the manifest of a colour. They are given in full, and the reader
is run on the text once; results about rendering start from the nodes. -/
theorem parse_colorContent : Document.parse colorContent = .ok (.ofNodes colorNodes) := by
  refine parse_of_readsAs ?_ rfl rfl rfl
  rw [colorContent, toList_lines]
  simp only [List.flatMap_cons, List.flatMap_nil, String.toList_append, toList_spelled,
    List.cons_append, List.nil_append, List.append_nil]
  decide +kernel

/-- The nodes of the manifest of an image. -/
def imageNodes : List Template.Node :=
  [.text "\x7b\n  \"images\" : [\n    \x7b\n      \"filename\" : \"",
    print "file" [],
    .text "\",\n      \"idiom\" : \"universal\"\n    \x7d",
    whenHolds "darkFile"
      [.text (darkHead ++ "\"filename\" : \""),
        print "darkFile" [],
        .text "\",\n      \"idiom\" : \"universal\"\n    \x7d"],
    .text infoTail,
    whenHolds "properties"
      [.text ",\n  \"properties\" : \x7b",
        .loop (some "key") "value" (.ofTerm (.variable "properties"))
          [.text "\n    \"",
            print "key" [],
            .text "\" : ",
            print "value" [.mk "json_encode" []],
            .conditional [(.mk true (.variable "loop.last") [], [.text ","])] []]
          [],
        .text "\n  \x7d"],
    .text "\n\x7d\n"]

/-- The nodes of the template for the manifest of an image, in the same way. -/
theorem parse_imageContent : Document.parse imageContent = .ok (.ofNodes imageNodes) := by
  refine parse_of_readsAs ?_ rfl rfl rfl
  rw [imageContent, toList_lines]
  simp only [List.flatMap_cons, List.flatMap_nil, String.toList_append, toList_spelled,
    List.cons_append, List.nil_append, List.append_nil]
  decide +kernel

/-! ### Declarations -/

/-- The first text of a declaration file that imports a library. -/
def fileHead (library : String) : String :=
  "// Generated by tokengen. Do not edit.\n\nimport " ++ library ++ "\n\npublic "

/-- The nodes of a constant. -/
def constantNodes : List Template.Node :=
  [whenHolds "value.entry.description"
      [.text "\n        /// ", print "value.entry.description" []],
    .text "\n        public static let ",
    print "value.name" [.mk "escape_leading_digit" []],
    .text " = ",
    print "value.entry.value" [.mk "quote" []]]

/-- The nodes of a file of constants. -/
def constantsNodes : List Template.Node :=
  [.text (fileHead "Foundation" ++ "enum "),
    print "params.objectName" [orElse "DesignTokens"],
    .text " \x7b",
    forEach "input" "inputs"
      [.text "\n    public enum ",
        print "input.params.objectName" [orElse "Values"],
        .text " \x7b",
        forEach "value" "input.values" constantNodes,
        .text "\n    \x7d"],
    .text "\n\x7d\n"]

/-- The nodes of the template for the Swift file with constants, in the same way. -/
theorem parse_constantsContent :
    Document.parse constantsContent = .ok (.ofNodes constantsNodes) := by
  refine parse_of_readsAs ?_ rfl rfl rfl
  rw [constantsContent, toList_lines]
  simp only [List.flatMap_cons, List.flatMap_nil, String.toList_append, toList_spelled,
    List.cons_append, List.nil_append, List.append_nil]
  decide +kernel

/-- The nodes of a colour that refers to a catalog. -/
def colorConstantNodes : List Template.Node :=
  [.text "\n    static let ",
    print "value.name"
      [.mk "escape_leading_digit" [],
        .mk "prefix_color" [("prefix", .ofTerm (.string "token"))]],
    .text " = Color(\"",
    print "value.name" [],
    .text "\")"]

/-- The nodes of a file of colours. -/
def colorsNodes : List Template.Node :=
  [.text (fileHead "SwiftUI" ++ "extension Color \x7b"),
    forEach "input" "inputs" [forEach "value" "input.values" colorConstantNodes],
    .text "\n\x7d\n"]

/-- The nodes of the template for the Swift file with colours, in the same way. -/
theorem parse_colorsContent : Document.parse colorsContent = .ok (.ofNodes colorsNodes) := by
  refine parse_of_readsAs ?_ rfl rfl rfl
  rw [colorsContent, toList_lines]
  simp only [List.flatMap_cons, List.flatMap_nil, String.toList_append, toList_spelled,
    List.cons_append, List.nil_append, List.append_nil]
  decide +kernel

/-! ### Functions -/

/-- No bundled template calls a function. So nothing that one is rendered to depends on the clock,
on chance or on the environment. -/
theorem functionsOf_content : ∀ template ∈ all, functionsOf template.content = [] := by
  have hnodes {text : String} {nodes : List Template.Node}
      (hparse : Document.parse text = .ok (.ofNodes nodes)) (hnone : functionsOfNodes nodes = []) :
      functionsOf text = [] := by
    rw [functionsOf, hparse]
    exact hnone
  simp only [all, List.forall_mem_cons]
  exact ⟨hnodes parse_infoContent rfl, hnodes parse_colorContent rfl,
    hnodes parse_imageContent rfl, hnodes parse_constantsContent rfl,
    hnodes parse_colorsContent rfl, List.forall_mem_nil _⟩

end BundledTemplate

end DesignTokens

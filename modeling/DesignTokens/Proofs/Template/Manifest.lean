import DesignTokens.Generate.ColorSet
import DesignTokens.Generate.ImageSet
import DesignTokens.Proofs.Catalog.Color
import DesignTokens.Proofs.Template.Writes

/-!
# The texts of manifests

A catalog generator renders a bundled template in a context that it builds itself. This file
states the manifest that comes out, for each of the three templates: `renderText_info`,
`renderText_color` and `renderText_image`. The first and the last hold for every context that the
generators build. A colour has to hold its channels (`Color.Decoded`), and the check in front of
its manifest is what sees to it.
-/

set_option autoImplicit false

namespace DesignTokens

open Template BundledTemplate

/-- The manifest at the root of a catalog. -/
def Manifest.rootText : String :=
  "\x7b\n  \"info\" : \x7b\n    \"author\" : \"xcode\",\n    \"version\" : 1\n  \x7d\n\x7d\n"

/-- The template of the root manifest always renders to the same text, as there is no tag in it. -/
theorem Manifest.renderText_info [Engine] : renderText infoContent [] = .ok Manifest.rootText := by
  rw [renderText_of_writes parse_infoContent
    (writes_cons (writes_text _ _) (writes_nil _))]
  rfl

/-! ### Colours -/

namespace ColorSet

/-- The name of the colour space in manifests of an entry. -/
def colorSpace (params : Value) : String :=
  String.ofList (Scope.orText "srgb" (step? params "colorSpace")).display

/-- What a manifest says of an appearance, from the name of its colour space on. -/
def appearancePieces (space : String) (rgba : Rgba) : List String :=
  [space, "\",\n        \"components\" : \x7b\n          \"alpha\" : \"", rgba.alpha,
    "\",\n          \"blue\" : \"", rgba.blue,
    "\",\n          \"green\" : \"", rgba.green,
    "\",\n          \"red\" : \"", rgba.red,
    "\"\n        \x7d\n      \x7d,\n      \"idiom\" : \"universal\"\n    \x7d"]

/-- What a manifest says of a dark appearance. -/
def darkText (space : String) : Option Rgba → String
  | none => ""
  | some rgba =>
    String.join ((darkHead ++ "\"color\" : \x7b\n        \"color-space\" : \"") ::
      appearancePieces space rgba)

/-- The manifest of a colour with a light appearance and perhaps a dark one. -/
def manifest (space : String) (light : Rgba) (dark : Option Rgba) : String :=
  String.join
    (("\x7b\n  \"colors\" : [\n    \x7b\n      \"color\" : \x7b\n        \"color-space\" : \"") ::
      (appearancePieces space light ++ [darkText space dark, infoTail ++ "\n\x7d\n"]))

/-- The nodes of an appearance write its channels. -/
theorem writes_appearanceNodes [Engine] {appearance : String} {context : Members}
    {color params : Value}
    {members : Members} {rgba : Rgba}
    (hspells : ∀ channel ∈ ["alpha", "blue", "green", "red"],
      Spells (channelPath appearance channel) "color" [appearance, "rgba", channel])
    (hparams : context.lookup "params" = some params)
    (hcolor : context.lookup "color" = some color)
    (happearance : step? color appearance = some (.object members))
    (hrgba : members.lookup "rgba" = some rgba.toValue) :
    Writes (appearanceNodes appearance) ⟨[], [], context, false⟩
      (appearancePieces (colorSpace params) rgba) := by
  -- the parameters may name a colour space, and `srgb` stands in for it
  have hspace : Scope.valueOr ⟨[], [], context, false⟩ "params.colorSpace" "srgb" =
      Scope.orText "srgb" (step? params "colorSpace") := by
    have hpath : Spells "params.colorSpace" "params" ["colorSpace"] := by decide
    rw [Scope.valueOr_eq hpath, Scope.find?_context hpath, hparams]
    simp
  have hchannel (channel text : String) (hmem : channel ∈ ["alpha", "blue", "green", "red"])
      (hstep : step? rgba.toValue channel = some (.string text)) :
      (print (channelPath appearance channel) []).Writes ⟨[], [], context, false⟩ text := by
    have hresolve : Scope.resolve ⟨[], [], context, false⟩ (channelPath appearance channel) =
        .ok (.string text) := by
      apply Scope.resolve_context (hspells channel hmem) hcolor
      simp [happearance, hrgba, hstep]
    exact writes_print_text hresolve
  unfold appearanceNodes appearancePieces
  refine writes_cons ?_ (writes_cons (writes_text _ _) ?_)
  · rw [colorSpace, ← hspace]
    exact writes_orElse _ _ _
  refine writes_cons (hchannel "alpha" _ (by simp) rfl) (writes_cons (writes_text _ _) ?_)
  refine writes_cons (hchannel "blue" _ (by simp) rfl) (writes_cons (writes_text _ _) ?_)
  refine writes_cons (hchannel "green" _ (by simp) rfl) (writes_cons (writes_text _ _) ?_)
  refine writes_cons (hchannel "red" _ (by simp) rfl) (writes_cons (writes_text _ _) ?_)
  exact writes_nil _

/-- A decoded colour renders to its manifest, whatever the parameters of the entry are. That it is
decoded is needed, as the template names the channels without a default. -/
theorem renderText_color [Engine] (params : Value) {color : Color} {light : Rgba}
    {dark : Option Rgba} (hdecoded : color.Decoded light dark) :
    renderText colorContent (context params color) =
      .ok (manifest (colorSpace params) light dark) := by
  apply renderText_of_writes parse_colorContent
  have hparams : (context params color).lookup "params" = some params := rfl
  have hcolor : (context params color).lookup "color" = some color.toValue := rfl
  have hpath : Spells "color.dark" "color" ["dark"] := by decide
  have hdark : (whenHolds "color.dark"
      (.text (darkHead ++ "\"color\" : \x7b\n        \"color-space\" : \"") ::
        appearanceNodes "dark")).Writes ⟨[], [], context params color, false⟩
      (darkText (colorSpace params) dark) := by
    have hfind : Scope.find? ⟨[], [], context params color, false⟩ "color.dark".toList =
        some (.ofOption (color.dark.map .object)) := by
      rw [Scope.find?_context hpath, hcolor]
      rfl
    -- a dark appearance holds, since it has its channels at least
    rcases hdecoded.dark_cases with ⟨hnone, rfl⟩ | ⟨members, rgba, hsome, rfl, hrgba⟩
    · have hholds : Scope.holds ⟨[], [], context params color, false⟩ "color.dark" = false := by
        rw [Scope.holds_eq hpath, hfind, hnone]
        rfl
      exact writes_whenHolds_not _ hholds
    · have hholds : Scope.holds ⟨[], [], context params color, false⟩ "color.dark" = true := by
        rw [Scope.holds_eq hpath, hfind, hsome]
        cases members with
        | nil => cases hrgba
        | cons => rfl
      have happearance : step? color.toValue "dark" = some (.object members) := by
        simp [Color.toValue, hsome, List.lookup_cons, Value.ofOption]
      refine writes_whenHolds hholds (writes_cons (writes_text _ _) ?_)
      exact writes_appearanceNodes (by decide) hparams hcolor happearance hrgba
  refine writes_cons (writes_text _ _) (writes_append ?_ ?_)
  · exact writes_appearanceNodes (by decide) hparams hcolor rfl hdecoded.light
  · exact writes_cons hdark (writes_cons (writes_text _ _) (writes_nil _))

end ColorSet

/-! ### Images -/

namespace ImageSet

/-- What a manifest says of a dark file. -/
def darkText : Option String → String
  | none => ""
  | some name =>
    String.join [darkHead ++ "\"filename\" : \"", name,
      "\",\n      \"idiom\" : \"universal\"\n    \x7d"]

/-- The line of a property, the last of which has no comma. -/
def propertyPieces (count index : Nat) (item : Option String × Value) : List String :=
  ["\n    \"", item.1.getD "", "\" : ", String.ofList item.2.encode,
    if index + 1 = count then "" else ","]

/-- What a manifest says of properties. -/
def propertiesText (properties : Members) : String :=
  if properties.isEmpty then ""
  else
    String.join [",\n  \"properties\" : \x7b",
      loopText (fun index item => String.join (propertyPieces properties.length index item))
        (properties.map fun (key, value) => (some key, value)),
      "\n  \x7d"]

/-- The manifest of an image with a light file and perhaps a dark one. -/
def manifest (file : String) (dark : Option String) (properties : Members) : String :=
  String.join
    ["\x7b\n  \"images\" : [\n    \x7b\n      \"filename\" : \"", file,
      "\",\n      \"idiom\" : \"universal\"\n    \x7d", darkText dark, infoTail,
      propertiesText properties, "\n\x7d\n"]

/-- The name of a file is not empty if its stem is not. -/
theorem fileNameOf_ne_empty {stem : String} (h : stem ≠ "") (source : String) :
    Image.fileNameOf stem source ≠ "" := by
  unfold Image.fileNameOf
  cases Path.extension? source with
  | none => exact h
  | some extension =>
    intro hempty
    have hlist := congrArg String.toList hempty
    simp at hlist

/-- A dark file has a name. -/
theorem darkFile_ne_empty {image : Image} {name : String} (h : image.darkFile = some name) :
    name ≠ "" := by
  simp only [Image.darkFile, Option.map_eq_some_iff] at h
  obtain ⟨source, -, rfl⟩ := h
  apply fileNameOf_ne_empty
  intro hempty
  have hlist := congrArg String.toList hempty
  simp at hlist

/-- The context of an image as a scope. -/
abbrev imageScope (params : Value) (properties : Members) (image : Image) : Scope :=
  ⟨[], [], context params properties image, false⟩

section
variable [Engine] (params : Value) (properties : Members) (image : Image)

/-- The block of the dark file is there if the image has one. -/
theorem writes_darkFile :
    (whenHolds "darkFile"
      [.text (darkHead ++ "\"filename\" : \""), print "darkFile" [],
        .text "\",\n      \"idiom\" : \"universal\"\n    \x7d"]).Writes
      (imageScope params properties image) (darkText image.darkFile) := by
  have hpath : Spells "darkFile" "darkFile" [] := by decide
  have hfind : (imageScope params properties image).find? "darkFile".toList =
      some (.ofOption (image.darkFile.map .string)) := by
    rw [Scope.find?_context hpath]
    rfl
  cases hdark : image.darkFile with
  | none =>
    apply writes_whenHolds_not
    rw [Scope.holds_eq hpath, hfind, hdark]
    rfl
  | some name =>
    rw [hdark] at hfind
    apply writes_whenHolds
    · rw [Scope.holds_eq hpath, hfind]
      simpa [Value.ofOption, Value.isTruthy] using darkFile_ne_empty hdark
    · have hprint := writes_print_text (Scope.resolve_of_find? hpath hfind)
      exact writes_cons (writes_text _ _) (writes_cons hprint (writes_cons (writes_text _ _)
        (writes_nil _)))

/-- The body of the loop over the properties writes a line for each of them. -/
theorem writes_property (scope : Scope) (count index : Nat) (key : String) (value : Value) :
    Writes
      [.text "\n    \"", print "key" [], .text "\" : ", print "value" [.mk "json_encode" []],
        .conditional [(.mk true (.variable "loop.last") [], [.text ","])] []]
      (scope.inside (loopAt (some "key") "value" count index (some key, value)))
      (propertyPieces count index (some key, value)) := by
  let inner := scope.inside (loopAt (some "key") "value" count index (some key, value))
  have hkey : (print "key" []).Writes inner key := by
    have hpath : Spells "key" "key" [] := by decide
    have hfind : inner.find? "key".toList = some (.string key) :=
      Scope.find?_inside_key hpath (by decide) rfl (by decide) rfl
        (show "key" ≠ "value" by decide) scope
    exact writes_print_text (Scope.resolve_of_find? hpath hfind)
  have hvalue : (print "value" [.mk "json_encode" []]).Writes inner
      (String.ofList value.encode) := by
    have hpath : Spells "value" "value" [] := by decide
    have hresolve : inner.resolve "value" = .ok value :=
      Scope.resolve_inside_item hpath (by decide) rfl rfl rfl scope
    have hmeans : Expression.Means (.mk false (.variable "value") [.mk "json_encode" []]) inner
        (.string (String.ofList value.encode)) :=
      means_filtered hresolve (by decide) rfl (fun _ => rfl) rfl
        (fun _ => rfl)
    exact writes_output_text hmeans
  -- the last property has no comma behind it
  have hcomma : (Node.conditional
      [(.mk true (.variable "loop.last") [], [.text ","])] []).Writes inner
      (if index + 1 = count then "" else ",") := by
    have hpath : Spells "loop.last" "loop" ["last"] := by decide
    have hholds : inner.holds "loop.last" = decide (index + 1 = count) := by
      rw [Scope.holds_eq hpath, Scope.find?_inside_last rfl]
      rfl
    have hwrites := writes_conditional (truth_not_path "loop.last" inner) fun _ =>
      writes_cons (writes_text "," inner) (writes_nil inner)
    by_cases hlast : index + 1 = count
    · simpa [hholds, hlast] using hwrites
    · simpa [hholds, hlast] using hwrites
  exact writes_cons (writes_text _ _) (writes_cons hkey (writes_cons (writes_text _ _)
    (writes_cons hvalue (writes_cons hcomma (writes_nil _)))))

/-- The block of the properties is there if the mapping has any. -/
theorem writes_properties :
    (whenHolds "properties"
      [.text ",\n  \"properties\" : \x7b",
        .loop (some "key") "value" (.ofTerm (.variable "properties"))
          [.text "\n    \"", print "key" [], .text "\" : ",
            print "value" [.mk "json_encode" []],
            .conditional [(.mk true (.variable "loop.last") [], [.text ","])] []]
          [],
        .text "\n  \x7d"]).Writes
      (imageScope params properties image) (propertiesText properties) := by
  have hpath : Spells "properties" "properties" [] := by decide
  have hfind : (imageScope params properties image).find? "properties".toList =
      some (.object properties) := by
    rw [Scope.find?_context hpath]
    rfl
  have hholds : (imageScope params properties image).holds "properties" =
      !properties.isEmpty := by
    rw [Scope.holds_eq hpath, hfind]
    rfl
  unfold propertiesText
  cases hempty : properties.isEmpty with
  | true => exact writes_whenHolds_not _ (by rw [hholds, hempty]; rfl)
  | false =>
    rw [if_neg Bool.false_ne_true]
    refine writes_whenHolds (by rw [hholds, hempty]; rfl) ?_
    refine writes_cons (writes_text _ _) (writes_cons ?_ (writes_cons (writes_text _ _) ?_))
    · -- each round writes its own line, whatever the value is
      refine writes_loop (propertyPieces properties.length)
        (Scope.resolve_of_find? hpath hfind) rfl ?_
      intro i item hi
      simp only [List.getElem?_map, Option.map_eq_some_iff, Prod.exists] at hi
      obtain ⟨key, value, -, rfl⟩ := hi
      rw [List.length_map]
      exact writes_property _ _ _ _ _
    · exact writes_nil _

/-- An image renders to its manifest, whatever the parameters and properties of the entry are. The
names go into the text as they stand, so that this does not say that the manifest is readable. -/
theorem renderText_image :
    renderText imageContent (context params properties image) =
      .ok (manifest image.file image.darkFile properties) := by
  apply renderText_of_writes parse_imageContent
  have hfile : (print "file" []).Writes (imageScope params properties image) image.file := by
    have hpath : Spells "file" "file" [] := by decide
    have hresolve := Scope.resolve_context hpath
      (show (context params properties image).lookup "file" = some (.string image.file) from rfl)
      rfl
    exact writes_print_text hresolve
  exact writes_cons (writes_text _ _) (writes_cons hfile (writes_cons (writes_text _ _)
    (writes_cons (writes_darkFile params properties image) (writes_cons (writes_text _ _)
      (writes_cons (writes_properties params properties image)
        (writes_cons (writes_text _ _) (writes_nil _)))))))

end

end ImageSet

end DesignTokens

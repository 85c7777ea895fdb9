/-!
# Bundled templates

The templates that every run knows by name: the manifests of asset catalogs, and two templates for
Swift files. Their texts end in a line feed.
-/

set_option autoImplicit false

namespace DesignTokens

/-- A template that is known by name. -/
structure BundledTemplate where
  name : String
  description : String
  content : String
deriving DecidableEq, Repr

namespace BundledTemplate

/-- The lines of a text, each with a line feed behind it. -/
def lines (content : List String) : String :=
  String.join (content.map (· ++ "\n"))

/-- The manifest at the root of a catalog. -/
def infoContent : String :=
  lines
    ["\x7b",
      "  \"info\" : \x7b",
      "    \"author\" : \"xcode\",",
      "    \"version\" : 1",
      "  \x7d",
      "\x7d"]

/-- The manifest of a colour. -/
def colorContent : String :=
  lines
    ["\x7b",
      "  \"colors\" : [",
      "    \x7b",
      "      \"color\" : \x7b",
      "        \"color-space\" : \"\x7b\x7b params.colorSpace | " ++
        "default(value=\"srgb\") \x7d\x7d\",",
      "        \"components\" : \x7b",
      "          \"alpha\" : \"\x7b\x7b color.any.rgba.alpha \x7d\x7d\",",
      "          \"blue\" : \"\x7b\x7b color.any.rgba.blue \x7d\x7d\",",
      "          \"green\" : \"\x7b\x7b color.any.rgba.green \x7d\x7d\",",
      "          \"red\" : \"\x7b\x7b color.any.rgba.red \x7d\x7d\"",
      "        \x7d",
      "      \x7d,",
      "      \"idiom\" : \"universal\"",
      "    \x7d\x7b% if color.dark %\x7d,",
      "    \x7b",
      "      \"appearances\" : [",
      "        \x7b",
      "          \"appearance\" : \"luminosity\",",
      "          \"value\" : \"dark\"",
      "        \x7d",
      "      ],",
      "      \"color\" : \x7b",
      "        \"color-space\" : \"\x7b\x7b params.colorSpace | " ++
        "default(value=\"srgb\") \x7d\x7d\",",
      "        \"components\" : \x7b",
      "          \"alpha\" : \"\x7b\x7b color.dark.rgba.alpha \x7d\x7d\",",
      "          \"blue\" : \"\x7b\x7b color.dark.rgba.blue \x7d\x7d\",",
      "          \"green\" : \"\x7b\x7b color.dark.rgba.green \x7d\x7d\",",
      "          \"red\" : \"\x7b\x7b color.dark.rgba.red \x7d\x7d\"",
      "        \x7d",
      "      \x7d,",
      "      \"idiom\" : \"universal\"",
      "    \x7d\x7b% endif %\x7d",
      "  ],",
      "  \"info\" : \x7b",
      "    \"author\" : \"xcode\",",
      "    \"version\" : 1",
      "  \x7d",
      "\x7d"]

/-- The manifest of an image. -/
def imageContent : String :=
  lines
    ["\x7b",
      "  \"images\" : [",
      "    \x7b",
      "      \"filename\" : \"\x7b\x7b file \x7d\x7d\",",
      "      \"idiom\" : \"universal\"",
      "    \x7d\x7b% if darkFile %\x7d,",
      "    \x7b",
      "      \"appearances\" : [",
      "        \x7b",
      "          \"appearance\" : \"luminosity\",",
      "          \"value\" : \"dark\"",
      "        \x7d",
      "      ],",
      "      \"filename\" : \"\x7b\x7b darkFile \x7d\x7d\",",
      "      \"idiom\" : \"universal\"",
      "    \x7d\x7b% endif %\x7d",
      "  ],",
      "  \"info\" : \x7b",
      "    \"author\" : \"xcode\",",
      "    \"version\" : 1",
      "  \x7d\x7b% if properties %\x7d,",
      "  \"properties\" : \x7b",
      "\x7b%- for key, value in properties %\x7d",
      "    \"\x7b\x7b key \x7d\x7d\" : \x7b\x7b value | json_encode() \x7d\x7d" ++
        "\x7b% if not loop.last %\x7d,\x7b% endif %\x7d",
      "\x7b%- endfor %\x7d",
      "  \x7d\x7b% endif %\x7d",
      "\x7d"]

/-- Constants in one enumeration for each input. -/
def constantsContent : String :=
  lines
    ["// Generated by tokengen. Do not edit.",
      "",
      "import Foundation",
      "",
      "public enum \x7b\x7b params.objectName | default(value=\"DesignTokens\") \x7d\x7d \x7b",
      "\x7b%- for input in inputs %\x7d",
      "    public enum \x7b\x7b input.params.objectName | default(value=\"Values\") \x7d\x7d \x7b",
      "\x7b%- for value in input.values %\x7d",
      "\x7b%- if value.entry.description %\x7d",
      "        /// \x7b\x7b value.entry.description \x7d\x7d",
      "\x7b%- endif %\x7d",
      "        public static let \x7b\x7b value.name | " ++
        "escape_leading_digit \x7d\x7d = \x7b\x7b value.entry.value | quote \x7d\x7d",
      "\x7b%- endfor %\x7d",
      "    \x7d",
      "\x7b%- endfor %\x7d",
      "\x7d"]

/-- Colours that refer to an asset catalog. -/
def colorsContent : String :=
  lines
    ["// Generated by tokengen. Do not edit.",
      "",
      "import SwiftUI",
      "",
      "public extension Color \x7b",
      "\x7b%- for input in inputs %\x7d",
      "\x7b%- for value in input.values %\x7d",
      "    static let \x7b\x7b value.name | escape_leading_digit | " ++
        "prefix_color(prefix=\"token\") \x7d\x7d = Color(\"\x7b\x7b value.name \x7d\x7d\")",
      "\x7b%- endfor %\x7d",
      "\x7b%- endfor %\x7d",
      "\x7d"]

/-- The template of the manifest at the root of a catalog. -/
def info : BundledTemplate :=
  ⟨"info-contents", "Asset catalog root Contents.json", infoContent⟩

/-- The template of the manifest of a colour. -/
def color : BundledTemplate :=
  ⟨"color-contents", "Colorset Contents.json with optional dark appearance", colorContent⟩

/-- The template of the manifest of an image. -/
def image : BundledTemplate :=
  ⟨"image-contents", "Imageset Contents.json with optional dark appearance and properties",
    imageContent⟩

/-- The template of Swift constants. -/
def constants : BundledTemplate :=
  ⟨"swift-constants", "Swift enum of static constants, one nested enum per input",
    constantsContent⟩

/-- The template of Swift colours. -/
def colors : BundledTemplate :=
  ⟨"swiftui-colors", "SwiftUI Color extension referencing asset catalog colors", colorsContent⟩

/-- All bundled templates. -/
def all : List BundledTemplate :=
  [info, color, image, constants, colors]

/-- The bundled template of a name. -/
def find? (name : String) : Option BundledTemplate :=
  all.find? (·.name = name)

end BundledTemplate

end DesignTokens

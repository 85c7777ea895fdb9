import DesignTokens.Text.CaseTable
import DesignTokens.Text.Blank

/-!
# Case mapping

Full Unicode case mapping: a character may map to several. `lower` of a whole text also gives a
capital sigma at the end of a word its final form.
-/

set_option autoImplicit false

namespace DesignTokens.Text

/-- The image of a character under a table of special and of simple mappings. -/
def mapCase (specials : List (Nat × List Nat)) (ranges : List CaseRange) (c : Char) : List Char :=
  match specials.lookup c.toNat with
  | some image => image.map Char.ofNat
  | none =>
    match ranges.find? (·.covers c.toNat) with
    | some range => [Char.ofNat (c.toNat + range.shift).toNat]
    | none => [c]

/-- The uppercase form of a character. -/
def upperChar (c : Char) : List Char :=
  mapCase uppercaseSpecials uppercaseRanges c

/-- The lowercase form of a character on its own. -/
def lowerChar (c : Char) : List Char :=
  mapCase lowercaseSpecials lowercaseRanges c

/-- The uppercase form of a text. -/
def upper (text : List Char) : List Char :=
  text.flatMap upperChar

/-- Whether the first character that is not passed over is cased. -/
def meetsCased (text : List Char) : Bool :=
  match text.dropWhile fun c => inRanges caseIgnorableRanges c.toNat with
  | [] => false
  | c :: _ => inRanges casedRanges c.toNat

/-- Lowercases `text`, which stands after the reverse of `before`. -/
def lowerAfter (before : List Char) : List Char → List Char
  | [] => []
  | c :: rest =>
    let image :=
      -- the final form stands behind a cased letter and before none
      if c = 'Σ' then
        if meetsCased before && !meetsCased rest then ['ς'] else ['σ']
      else lowerChar c
    image ++ lowerAfter (c :: before) rest

/-- The lowercase form of a text. -/
def lower (text : List Char) : List Char :=
  lowerAfter [] text

/-- The text with its first character in uppercase. -/
def upperFirst : List Char → List Char
  | [] => []
  | c :: rest => upperChar c ++ rest

/-- The text with its first character in lowercase. -/
def lowerFirst : List Char → List Char
  | [] => []
  | c :: rest => lowerChar c ++ rest

end DesignTokens.Text

import DesignTokens.Value.Decode
import DesignTokens.Value.Encode

/-!
# Channels of a colour

A hex text `#RRGGBB` or `#RRGGBBAA` splits into red, green and blue, written with `0x` in front,
and an alpha with three decimals. Nothing but the length and the alphabet of the text is checked:
six ASCII characters make a colour whatever they are.
-/

set_option autoImplicit false

namespace DesignTokens

/-- The channels of a colour, and the text they were read from. -/
structure Rgba where
  red : String
  green : String
  blue : String
  alpha : String
  hex : String
deriving DecidableEq, Repr

namespace Rgba

/-- The alpha of a colour that does not say otherwise. -/
def opaqueAlpha : String := "1.000"

/-- The text without one leading `#`. -/
def digits (hex : String) : List Char :=
  match hex.toList with
  | '#' :: rest => rest
  | text => text

/-- The byte written by at most two hexadecimal digits, of which the first may be a plus sign. -/
def byte? : List Char → Option Nat
  | [a, b] =>
    if a = '+' then Json.hexValue? b
    else do return (← Json.hexValue? a) * 16 + (← Json.hexValue? b)
  | _ => none

/-- A byte as a fraction of 255 with three decimals. -/
def alphaText (byte : Nat) : String :=
  -- 2000 * byte is even and 255 is odd, so no byte lies half-way between two thousandths
  let thousandths := (2000 * byte + 255) / 510
  if thousandths = 1000 then "1.000"
  else
    String.ofList ('0' :: '.' ::
      [hexDigit (thousandths / 100), hexDigit (thousandths / 10 % 10), hexDigit (thousandths % 10)])

/-- The alpha of the characters after the six of red, green and blue: exactly two that form a byte,
or else the colour is opaque. -/
def alphaOf (rest : List Char) : String :=
  match byte? rest with
  | some byte => alphaText byte
  | none => opaqueAlpha

/-- The channels of a hex text, unless fewer than six characters follow the `#` or one of them is
beyond ASCII. -/
def components? (hex : String) : Option Rgba :=
  match digits hex with
  | r₁ :: r₂ :: g₁ :: g₂ :: b₁ :: b₂ :: rest =>
    if (r₁ :: r₂ :: g₁ :: g₂ :: b₁ :: b₂ :: rest).all (·.toNat < 128) then
      some {
        red := String.ofList ['0', 'x', r₁, r₂]
        green := String.ofList ['0', 'x', g₁, g₂]
        blue := String.ofList ['0', 'x', b₁, b₂]
        alpha := alphaOf rest
        hex := hex }
    else none
  | _ => none

/-- The channels as an object. -/
def toValue (rgba : Rgba) : Value :=
  .object [("alpha", .string rgba.alpha), ("blue", .string rgba.blue),
    ("green", .string rgba.green), ("hex", .string rgba.hex), ("red", .string rgba.red)]

/-- Adds the channels under `rgba` to an object whose `hex` is a text that has them. -/
def enrich (color : Members) : Members :=
  match (color.lookup "hex").bind Value.string? with
  | none => color
  | some hex =>
    match components? hex with
    | some rgba => Keyed.insert "rgba" rgba.toValue color
    | none => color

/-- The text that cannot be split when an object is enriched, if there is one. -/
def malformedHex? (color : Members) : Option String :=
  ((color.lookup "hex").bind Value.string?).filter fun hex => (components? hex).isNone

end Rgba

end DesignTokens

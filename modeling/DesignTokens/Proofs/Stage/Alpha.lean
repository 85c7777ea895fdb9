import DesignTokens.Proofs.Stage.Rgba
import Mathlib.Data.String.Basic
import Mathlib.Algebra.Order.Field.Rat
import Mathlib.Tactic.Linarith
import Mathlib.Tactic.NormNum
import Mathlib.Tactic.Ring

/-!
# The alpha of a colour

The alpha is read from what follows the six characters of red, green and blue. Two hexadecimal
digits write a byte there (`WritesByte`), and so does a plus sign in front of one digit
(`WritesSigned`), since the reader of numbers admits a sign. The alpha is this byte as a fraction of
255, to the nearest thousandth (`Nearest`), and without such a byte the colour is not transparent.

`Alpha` puts the three cases together, and `components?_spec` says in full what becomes of a text. A
sign is the only way to an alpha that two digits do not write (`components?_signed`).
-/

set_option autoImplicit false

namespace DesignTokens.Rgba

/-! ### Bytes -/

/-- The character is the hexadecimal digit of the value, in either case. -/
def IsDigitOf (c : Char) (value : Nat) : Prop :=
  "0123456789abcdef".toList[value]? = some c ∨ "0123456789ABCDEF".toList[value]? = some c

/-- The text is two hexadecimal digits, and these write the byte. -/
def WritesByte (text : List Char) (byte : Nat) : Prop :=
  ∃ a b high low, text = [a, b] ∧ IsDigitOf a high ∧ IsDigitOf b low ∧ byte = high * 16 + low

/-- The text is a plus sign and the hexadecimal digit of the byte. -/
def WritesSigned (text : List Char) (byte : Nat) : Prop :=
  ∃ b, text = ['+', b] ∧ IsDigitOf b byte

/-- The value of a hexadecimal digit is less than 16. -/
theorem IsDigitOf.lt {c : Char} {value : Nat} (h : IsDigitOf c value) : value < 16 := by
  rcases h with h | h <;> exact (List.getElem?_eq_some_iff.1 h).1

/-- The plus sign is no digit. -/
theorem not_isDigitOf_plus {value : Nat} : ¬ IsDigitOf '+' value := by
  have hlower : '+' ∉ "0123456789abcdef".toList := by decide
  have hupper : '+' ∉ "0123456789ABCDEF".toList := by decide
  rintro (h | h)
  · exact hlower (List.mem_of_getElem? h)
  · exact hupper (List.mem_of_getElem? h)

/-- A character that has a value is ASCII, as the three ranges of digits are. Texts with other
characters are refused as a whole anyway. -/
theorem toNat_lt_of_hexValue? {c : Char} {value : Nat} (h : Json.hexValue? c = some value) :
    c.toNat < 128 := by
  unfold Json.hexValue? at h
  split at h
  · rename_i hdigit
    have hlast : c.toNat ≤ 57 := by
      simpa [Char.isDigit, UInt32.le_iff_toNat_le] using (Bool.and_eq_true_iff.1 hdigit).2
    omega
  · split at h
    · rename_i hlower
      have hlast : c.toNat ≤ 102 := hlower.2
      omega
    · split at h
      · rename_i hupper
        have hlast : c.toNat ≤ 70 := hupper.2
        omega
      · cases h

/-- The program finds a value for exactly the hexadecimal digits, of either case. The three cases
are its three ranges of characters. -/
theorem hexValue?_eq_some_iff {c : Char} {value : Nat} :
    Json.hexValue? c = some value ↔ IsDigitOf c value := by
  constructor
  · intro h
    -- digits are ASCII, so the table can be decided for all of them
    have hall : ∀ code < 128, ∀ value ∈ Json.hexValue? (Char.ofNat code),
        "0123456789abcdef".toList[value]? = some (Char.ofNat code) ∨
          "0123456789ABCDEF".toList[value]? = some (Char.ofNat code) := by
      decide +kernel
    have hcode := hall c.toNat (toNat_lt_of_hexValue? h)
    rw [Char.ofNat_toNat] at hcode
    exact hcode value h
  · intro h
    have hall : ∀ value < 16,
        ("0123456789abcdef".toList[value]?).map Json.hexValue? = some (some value) ∧
          ("0123456789ABCDEF".toList[value]?).map Json.hexValue? = some (some value) := by
      decide
    obtain ⟨hlower, hupper⟩ := hall value h.lt
    rcases h with h | h
    · rw [h] at hlower
      exact Option.some.inj hlower
    · rw [h] at hupper
      exact Option.some.inj hupper

/-! ### Thousandths -/

/-- A number of thousandths as a decimal with three places. -/
def decimal (thousandths : Nat) : String :=
  String.ofList [Nat.digitChar (thousandths / 1000), '.', Nat.digitChar (thousandths / 100 % 10),
    Nat.digitChar (thousandths / 10 % 10), Nat.digitChar (thousandths % 10)]

/-- The text is the decimal with three places that is nearest to the byte as a fraction of 255. -/
def Nearest (byte : Nat) (text : String) : Prop :=
  ∃ thousandths : Nat, |(byte : ℚ) / 255 - thousandths / 1000| < 1 / 2000 ∧
    text = decimal thousandths

/-- Half a thousandth is the limit to both sides. The statement is about fractions and the program
about whole numbers; multiplied out they are the same. -/
theorem near_iff {byte thousandths : Nat} :
    |(byte : ℚ) / 255 - thousandths / 1000| < 1 / 2000 ↔
      2000 * byte < 510 * thousandths + 255 ∧ 510 * thousandths < 2000 * byte + 255 := by
  have hscale : (byte : ℚ) / 255 - thousandths / 1000 =
      (2000 * byte - 510 * thousandths) / 510000 := by
    ring
  rw [hscale, abs_lt, lt_div_iff₀ (by norm_num), div_lt_iff₀ (by norm_num)]
  constructor
  · rintro ⟨hlow, hhigh⟩
    constructor
    · have : (2000 * byte : ℚ) < 510 * thousandths + 255 := by linarith
      exact_mod_cast this
    · have : (510 * thousandths : ℚ) < 2000 * byte + 255 := by linarith
      exact_mod_cast this
  · rintro ⟨hlow, hhigh⟩
    have hlow' : (2000 * byte : ℚ) < 510 * thousandths + 255 := by exact_mod_cast hlow
    have hhigh' : (510 * thousandths : ℚ) < 2000 * byte + 255 := by exact_mod_cast hhigh
    constructor <;> linarith

/-- The nearest decimal is unique. -/
theorem Nearest.unique {byte : Nat} {text text' : String} (h : Nearest byte text)
    (h' : Nearest byte text') : text = text' := by
  obtain ⟨thousandths, hnear, rfl⟩ := h
  obtain ⟨thousandths', hnear', rfl⟩ := h'
  rw [near_iff] at hnear hnear'
  have heq : thousandths = thousandths' := by omega
  rw [heq]

/-- The text of an alpha value is the nearest one with three decimals, for each byte. -/
theorem nearest_alphaText {byte : Nat} (h : byte < 256) : Nearest byte (alphaText byte) := by
  refine ⟨(2000 * byte + 255) / 510, ?_, ?_⟩
  · rw [near_iff]
    omega
  · have hdigit : ∀ n < 10, hexDigit n = Nat.digitChar n := by decide
    rw [alphaText]
    generalize hthousandths : (2000 * byte + 255) / 510 = thousandths
    by_cases hone : thousandths = 1000
    · rw [if_pos hone, hone]
      rfl
    · have hless : thousandths < 1000 := by omega
      simp only [if_neg hone, decimal, Nat.div_eq_of_lt hless]
      rw [hdigit _ (by omega), hdigit _ (by omega), hdigit _ (by omega),
        Nat.mod_eq_of_lt (show thousandths / 100 < 10 by omega)]
      rfl

/-! ### Alpha -/

/-- A byte is written by two digits, or by a plus sign and a digit. -/
theorem byte?_eq_some_iff {text : List Char} {byte : Nat} :
    byte? text = some byte ↔ WritesByte text byte ∨ WritesSigned text byte := by
  constructor
  · intro h
    unfold byte? at h
    split at h
    · rename_i a b
      split at h
      · -- behind a plus sign a single digit is read
        rename_i hplus
        exact .inr ⟨b, by rw [hplus], hexValue?_eq_some_iff.1 h⟩
      · simp only [Option.bind_eq_bind, Option.bind_eq_some_iff, Option.pure_def,
          Option.some.injEq] at h
        obtain ⟨high, hhigh, low, hlow, rfl⟩ := h
        exact .inl ⟨a, b, high, low, rfl, hexValue?_eq_some_iff.1 hhigh,
          hexValue?_eq_some_iff.1 hlow, rfl⟩
    · cases h
  · rintro (⟨a, b, high, low, rfl, ha, hb, rfl⟩ | ⟨b, rfl, hb⟩)
    · have hplus : a ≠ '+' := by
        rintro rfl
        exact not_isDigitOf_plus ha
      simp [byte?, hplus, hexValue?_eq_some_iff.2 ha, hexValue?_eq_some_iff.2 hb]
    · simp [byte?, hexValue?_eq_some_iff.2 hb]

/-- Two digits write a byte. -/
theorem WritesByte.lt {text : List Char} {byte : Nat} (h : WritesByte text byte) : byte < 256 := by
  obtain ⟨a, b, high, low, -, ha, hb, rfl⟩ := h
  have hhigh := ha.lt
  have hlow := hb.lt
  omega

/-- Behind a sign only one digit is left, so the value is less than 16. -/
theorem WritesSigned.lt {text : List Char} {byte : Nat} (h : WritesSigned text byte) :
    byte < 16 := by
  obtain ⟨b, -, hb⟩ := h
  exact hb.lt

/-- The alpha of two digits is the byte that they write, and a colour without them is not
transparent. -/
structure AlphaOfDigits (rest : List Char) (text : String) : Prop where
  byte : ∀ byte, WritesByte rest byte → Nearest byte text
  otherwise : (∀ byte, ¬ WritesByte rest byte) → text = "1.000"

/-- The alpha follows the rule for digits, unless a sign stands in the place of the first one. -/
structure Alpha (rest : List Char) (text : String) : Prop where
  digits : (∀ byte, ¬ WritesSigned rest byte) → AlphaOfDigits rest text
  signed : ∀ byte, WritesSigned rest byte → Nearest byte text

/-- No digit is a sign. -/
theorem WritesByte.not_signed {text : List Char} {byte : Nat} (h : WritesByte text byte)
    (other : Nat) : ¬ WritesSigned text other := by
  rintro ⟨b, rfl, -⟩
  obtain ⟨a, c, high, low, heq, ha, -, -⟩ := h
  obtain rfl : '+' = a := (List.cons.inj heq).1
  exact not_isDigitOf_plus ha

/-- The alpha value that is computed from the rest of a text is the one that the relation gives
it. -/
theorem alpha_alphaOf (rest : List Char) : Alpha rest (alphaOf rest) := by
  have hnearest {byte : Nat} (h : WritesByte rest byte ∨ WritesSigned rest byte) :
      Nearest byte (alphaOf rest) := by
    have hlt : byte < 256 := by
      rcases h with h | h
      · exact h.lt
      · have := h.lt
        omega
    rw [alphaOf, byte?_eq_some_iff.2 h]
    exact nearest_alphaText hlt
  refine ⟨fun hsigned => ⟨fun byte h => hnearest (.inl h), fun hbyte => ?_⟩,
    fun byte h => hnearest (.inr h)⟩
  have hnone : byte? rest = none := by
    rw [Option.eq_none_iff_forall_ne_some]
    intro byte h
    exact (byte?_eq_some_iff.1 h).elim (hbyte byte) (hsigned byte)
  rw [alphaOf, hnone]
  rfl

/-- There is no other text that follows the rule. -/
theorem Alpha.eq_alphaOf {rest : List Char} {text : String} (h : Alpha rest text) :
    text = alphaOf rest := by
  have hrule := alpha_alphaOf rest
  by_cases hsigned : ∃ byte, WritesSigned rest byte
  · obtain ⟨byte, hbyte⟩ := hsigned
    exact (h.signed byte hbyte).unique (hrule.signed byte hbyte)
  · have hdigits := h.digits fun byte hbyte => hsigned ⟨byte, hbyte⟩
    have hdigits' := hrule.digits fun byte hbyte => hsigned ⟨byte, hbyte⟩
    by_cases hwritten : ∃ byte, WritesByte rest byte
    · obtain ⟨byte, hbyte⟩ := hwritten
      exact (hdigits.byte byte hbyte).unique (hdigits'.byte byte hbyte)
    · rw [hdigits.otherwise fun byte hbyte => hwritten ⟨byte, hbyte⟩,
        hdigits'.otherwise fun byte hbyte => hwritten ⟨byte, hbyte⟩]

/-- A sign gives an alpha that the rule for digits does not give. -/
theorem Alpha.not_alphaOfDigits {rest : List Char} {text : String} (h : Alpha rest text)
    {byte : Nat} (hsigned : WritesSigned rest byte) : ¬ AlphaOfDigits rest text := by
  intro hdigits
  have hbyte : byte < 16 := hsigned.lt
  obtain ⟨thousandths, hnear, htext⟩ := h.signed byte hsigned
  have hfull : text = "1.000" :=
    hdigits.otherwise fun other hother => hother.not_signed byte hsigned
  rw [near_iff] at hnear
  have hless : thousandths < 60 := by omega
  have hall : ∀ n < 60, decimal n ≠ "1.000" := by decide +kernel
  exact hall thousandths hless (htext.symm.trans hfull)

/-! ### Texts -/

/-- A character is one byte, if it is ASCII. -/
theorem utf8Len_of_ascii {text : List Char} (h : ∀ c ∈ text, c.toNat < 128) :
    String.utf8Len text = text.length := by
  induction text with
  | nil => rfl
  | cons c text ih =>
    obtain ⟨hc, htext⟩ := List.forall_mem_cons.1 h
    have hsize : c.utf8Size = 1 := by
      rw [Char.utf8Size_eq_one_iff, UInt32.le_iff_toNat_le]
      exact Nat.le_of_lt_succ hc
    rw [String.utf8Len_cons, hsize, ih htext, List.length_cons]

/-- Six ASCII characters are the same as six bytes without any other character. -/
theorem splits_iff {hex : String} : Splits hex ↔
    ¬ ((String.ofList (digits hex)).utf8ByteSize < 6 ∨ ∃ c ∈ digits hex, 128 ≤ c.toNat) := by
  have hascii : (¬ ∃ c ∈ digits hex, 128 ≤ c.toNat) ↔ ∀ c ∈ digits hex, c.toNat < 128 := by
    simp
  rw [not_or, hascii, not_lt, Splits]
  refine and_congr_left fun h => ?_
  rw [String.utf8ByteSize_ofList, utf8Len_of_ascii h]

/-- A text gives no channels exactly if it is shorter than six bytes behind its `#` or not ASCII
throughout. Otherwise the channels are the characters as they stand, two and two, the text itself is
kept, and the alpha value comes from whatever follows the six. -/
theorem components?_spec (hex : String) :
    (components? hex = none ↔
      (String.ofList (digits hex)).utf8ByteSize < 6 ∨ ∃ c ∈ digits hex, 128 ≤ c.toNat) ∧
    ∀ rgba, components? hex = some rgba ↔
      (∀ c ∈ digits hex, c.toNat < 128) ∧
        ∃ r₁ r₂ g₁ g₂ b₁ b₂ rest, digits hex = r₁ :: r₂ :: g₁ :: g₂ :: b₁ :: b₂ :: rest ∧
          rgba.red = channel r₁ r₂ ∧ rgba.green = channel g₁ g₂ ∧ rgba.blue = channel b₁ b₂ ∧
          rgba.hex = hex ∧ Alpha rest rgba.alpha := by
  constructor
  · rw [← not_iff_not, ← splits_iff, ← isSome_components?_iff]
    exact Option.isSome_iff_ne_none.symm
  · intro rgba
    rw [components?_eq_some_iff]
    refine and_congr_right fun _ => ?_
    constructor
    · rintro ⟨r₁, r₂, g₁, g₂, b₁, b₂, rest, hdigits, rfl⟩
      exact ⟨r₁, r₂, g₁, g₂, b₁, b₂, rest, hdigits, rfl, rfl, rfl, rfl, alpha_alphaOf rest⟩
    · rintro ⟨r₁, r₂, g₁, g₂, b₁, b₂, rest, hdigits, hred, hgreen, hblue, hhex, halpha⟩
      refine ⟨r₁, r₂, g₁, g₂, b₁, b₂, rest, hdigits, ?_⟩
      cases rgba
      simp only [Rgba.mk.injEq]
      exact ⟨hred, hgreen, hblue, halpha.eq_alphaOf, hhex⟩

/-- A sign in the place of the first digit gives the alpha of a byte. No two digits write that byte
here, so the text should have been taken as one without an alpha value. -/
theorem components?_signed :
    ∃ rgba, components? "#123456+F" = some rgba ∧ rgba.alpha = "0.059" ∧
      ¬ AlphaOfDigits ((digits "#123456+F").drop 6) rgba.alpha := by
  have hsigned : WritesSigned ['+', 'F'] 15 := ⟨'F', rfl, .inr rfl⟩
  have hrest : (digits "#123456+F").drop 6 = ['+', 'F'] := by decide +kernel
  have halpha : ¬ AlphaOfDigits ((digits "#123456+F").drop 6) (alphaOf ['+', 'F']) := by
    rw [hrest]
    exact (alpha_alphaOf ['+', 'F']).not_alphaOfDigits hsigned
  refine ⟨⟨channel '1' '2', channel '3' '4', channel '5' '6', alphaOf ['+', 'F'], "#123456+F"⟩,
    by decide +kernel, by decide +kernel, ?_⟩
  dsimp only
  exact halpha

end DesignTokens.Rgba

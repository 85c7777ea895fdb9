import DesignTokens.Proofs.Catalog.Color

/-!
# What channels are made of

A text has channels exactly if six ASCII characters follow its `#` (`components?_eq_some_iff`), and
red, green and blue are these characters in pairs. Nobody looks at what they are, so a channel is a
hexadecimal byte only if its two characters are digits (`bytes_iff`).
-/

set_option autoImplicit false

namespace DesignTokens

/-- A hexadecimal digit. -/
def IsHexDigit (c : Char) : Prop :=
  c ∈ ['0', '1', '2', '3', '4', '5', '6', '7', '8', '9', 'a', 'b', 'c', 'd', 'e', 'f',
    'A', 'B', 'C', 'D', 'E', 'F']

instance (c : Char) : Decidable (IsHexDigit c) :=
  inferInstanceAs (Decidable (c ∈ _))

namespace Rgba

/-- The channel of two characters, whatever they are. -/
def channel (a b : Char) : String :=
  String.ofList ['0', 'x', a, b]

/-- A channel is `0x` and two hexadecimal digits. -/
def IsByte (text : String) : Prop :=
  ∃ a b, IsHexDigit a ∧ IsHexDigit b ∧ text = channel a b

/-- A channel is a byte in hexadecimal form exactly if both of its characters are digits. -/
theorem isByte_channel_iff {a b : Char} : IsByte (channel a b) ↔ IsHexDigit a ∧ IsHexDigit b := by
  constructor
  · rintro ⟨a', b', ha, hb, heq⟩
    have hlist := String.ofList_injective heq
    simp only [List.cons.injEq, and_true, true_and] at hlist
    exact ⟨hlist.1 ▸ ha, hlist.2 ▸ hb⟩
  · rintro ⟨ha, hb⟩
    exact ⟨a, b, ha, hb, rfl⟩

/-- Red, green and blue are bytes. -/
structure Bytes (rgba : Rgba) : Prop where
  red : IsByte rgba.red
  green : IsByte rgba.green
  blue : IsByte rgba.blue

/-- Six characters or more follow the `#` of the text, all of them ASCII. -/
def Splits (hex : String) : Prop :=
  6 ≤ (digits hex).length ∧ ∀ c ∈ digits hex, c.toNat < 128

instance (hex : String) : Decidable (Splits hex) :=
  have : Decidable (∀ c ∈ digits hex, c.toNat < 128) := List.decidableBAll _ _
  inferInstanceAs (Decidable (_ ∧ _))

/-- The first six characters behind the `#` of the text are hexadecimal digits. -/
def SixDigits (hex : String) : Prop :=
  ∀ c ∈ (digits hex).take 6, IsHexDigit c

instance (hex : String) : Decidable (SixDigits hex) :=
  List.decidableBAll IsHexDigit ((digits hex).take 6)

/-- The channels of a text: its characters behind the `#` in pairs. Nothing asks whether they are
digits. What stands behind the first six decides the alpha value alone. -/
theorem components?_eq_some_iff {hex : String} {rgba : Rgba} :
    components? hex = some rgba ↔
      (∀ c ∈ digits hex, c.toNat < 128) ∧
        ∃ r₁ r₂ g₁ g₂ b₁ b₂ rest, digits hex = r₁ :: r₂ :: g₁ :: g₂ :: b₁ :: b₂ :: rest ∧
          rgba = ⟨channel r₁ r₂, channel g₁ g₂, channel b₁ b₂, alphaOf rest, hex⟩ := by
  unfold components?
  split
  · rename_i r₁ r₂ g₁ g₂ b₁ b₂ rest hdigits
    rw [hdigits]
    split
    · rename_i hascii
      constructor
      · intro h
        cases h
        exact ⟨by simpa using hascii, r₁, r₂, g₁, g₂, b₁, b₂, rest, rfl, rfl⟩
      · rintro ⟨-, _, _, _, _, _, _, _, heq, rfl⟩
        simp only [List.cons.injEq] at heq
        obtain ⟨rfl, rfl, rfl, rfl, rfl, rfl, rfl⟩ := heq
        rfl
    · rename_i hascii
      simp only [reduceCtorEq, false_iff]
      rintro ⟨hall, -⟩
      exact hascii (by simpa using hall)
  · rename_i hshort
    simp only [reduceCtorEq, false_iff]
    rintro ⟨-, r₁, r₂, g₁, g₂, b₁, b₂, rest, heq, -⟩
    exact hshort r₁ r₂ g₁ g₂ b₁ b₂ rest heq

/-- A text has channels exactly if it can be split. -/
theorem isSome_components?_iff {hex : String} : (components? hex).isSome = true ↔ Splits hex := by
  rw [Option.isSome_iff_exists]
  constructor
  · rintro ⟨rgba, h⟩
    obtain ⟨hascii, r₁, r₂, g₁, g₂, b₁, b₂, rest, hdigits, -⟩ := components?_eq_some_iff.1 h
    exact ⟨by simp [hdigits], hascii⟩
  · rintro ⟨hlength, hascii⟩
    obtain ⟨r₁, r₂, g₁, g₂, b₁, b₂, rest, hdigits⟩ :
        ∃ r₁ r₂ g₁ g₂ b₁ b₂ rest, digits hex = r₁ :: r₂ :: g₁ :: g₂ :: b₁ :: b₂ :: rest := by
      match hdigits : digits hex, hlength with
      | r₁ :: r₂ :: g₁ :: g₂ :: b₁ :: b₂ :: rest, _ => exact ⟨_, _, _, _, _, _, _, rfl⟩
    exact ⟨_, components?_eq_some_iff.2 ⟨hascii, r₁, r₂, g₁, g₂, b₁, b₂, rest, hdigits, rfl⟩⟩

/-- The channels of a text are bytes exactly if its six characters are digits. The program checks
the length and that all is ASCII, so the two may well differ. -/
theorem bytes_iff {hex : String} {rgba : Rgba} (h : components? hex = some rgba) :
    rgba.Bytes ↔ SixDigits hex := by
  obtain ⟨-, r₁, r₂, g₁, g₂, b₁, b₂, rest, hdigits, rfl⟩ := components?_eq_some_iff.1 h
  have htake : (digits hex).take 6 = [r₁, r₂, g₁, g₂, b₁, b₂] := by simp [hdigits]
  have hsix : SixDigits hex ↔ (IsHexDigit r₁ ∧ IsHexDigit r₂) ∧ (IsHexDigit g₁ ∧ IsHexDigit g₂) ∧
      IsHexDigit b₁ ∧ IsHexDigit b₂ := by
    rw [SixDigits, htake]
    simp [and_assoc]
  rw [hsix, ← isByte_channel_iff, ← isByte_channel_iff, ← isByte_channel_iff]
  exact ⟨fun hbytes => ⟨hbytes.red, hbytes.green, hbytes.blue⟩,
    fun ⟨hred, hgreen, hblue⟩ => ⟨hred, hgreen, hblue⟩⟩

end Rgba

end DesignTokens

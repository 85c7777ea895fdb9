/-!
# Texts spelled out

A text between double quotes on one line. Quotes, backslashes, line breaks and tabs are escaped by a
letter, other control characters by their code.
-/

set_option autoImplicit false

namespace DesignTokens.Text

/-- Whether a character controls a device and has no shape. -/
def isControl (c : Char) : Bool :=
  c.toNat < 0x20 || (0x7F ≤ c.toNat && c.toNat < 0xA0)

/-- A character as it stands in a text that is spelled out. -/
def spellChar (c : Char) : List Char :=
  if c = '"' then ['\\', '"']
  else if c = '\\' then ['\\', '\\']
  else if c = '\n' then ['\\', 'n']
  else if c = '\r' then ['\\', 'r']
  else if c = '\t' then ['\\', 't']
  else if c.toNat = 0 then ['\\', '0']
  else if isControl c then '\\' :: 'u' :: '{' :: (Nat.toDigits 16 c.toNat ++ ['}'])
  else [c]

/-- A text spelled out. -/
def spelled (text : List Char) : List Char :=
  '"' :: (text.flatMap spellChar ++ ['"'])

end DesignTokens.Text

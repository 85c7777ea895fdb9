import DesignTokens.Number.Binary64

/-!
# Numbers from digits

`readDigits?` reads a natural number in a radix, `ofDigits?` the double nearest to a decimal that is
given by its digits before and after the point and a power of ten.
-/

set_option autoImplicit false

namespace DesignTokens

/-- The value of a digit of any radix up to thirty-six, in either case. -/
def digitValue? (c : Char) : Option Nat :=
  if '0' ≤ c ∧ c ≤ '9' then some (c.toNat - 48)
  else if 'a' ≤ c ∧ c ≤ 'z' then some (c.toNat - 87)
  else if 'A' ≤ c ∧ c ≤ 'Z' then some (c.toNat - 55)
  else none

/-- The number that continues `high` with the digits of a text. -/
def appendDigits? (radix high : Nat) : List Char → Option Nat
  | [] => some high
  | c :: rest =>
    match digitValue? c with
    | some digit => if digit < radix then appendDigits? radix (high * radix + digit) rest else none
    | none => none

/-- The number that a text of at least one digit writes in a radix. -/
def readDigits? (radix : Nat) : List Char → Option Nat
  | [] => none
  | text => appendDigits? radix 0 text

/-- The power of ten from which on every decimal is beyond the doubles. -/
def Binary64.greatestPower : Int := 400

/-- The double nearest to the decimal with the given digits before and after its point, times a
power of ten. There must be a digit. Decimals far out of range are not computed. -/
def Binary64.ofDigits? (negative : Bool) (whole fraction : List Char) (exponent : Int) :
    Option Binary64 := do
  let digits ← readDigits? 10 (whole ++ fraction)
  let leading := ((whole ++ fraction).takeWhile (· = '0')).length
  let power : Int := exponent + (whole.length : Int) - (leading : Int)
  if digits = 0 then ofBits? negative 0
  else if greatestPower < power then none
  else if power < -greatestPower then ofBits? negative 0
  else ofDecimal? negative digits (exponent - (fraction.length : Int))

end DesignTokens

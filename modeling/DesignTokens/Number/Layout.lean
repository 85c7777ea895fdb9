import DesignTokens.Number.Decimal

/-!
# Number text

Three layouts of the shortest decimal. `exact` always tells a double from an integer: it has a point
or an exponent. `spelled` does so too, but turns to exponents earlier and never signs them with a
plus. `plain` never has an exponent and writes a whole number without a point.
-/

set_option autoImplicit false

namespace DesignTokens.Binary64

/-- The decimal digits of a natural number. -/
def digitsOf (n : Nat) : List Char :=
  Nat.toDigits 10 n

/-- Digits with the point `places` after the first one, padded with zeros on either side. A whole
number has no point. -/
def positional (digits : List Char) (places : Int) : List Char :=
  if places ≤ 0 then '0' :: '.' :: (List.replicate (-places).toNat '0' ++ digits)
  else if digits.length ≤ places.toNat then
    digits ++ List.replicate (places.toNat - digits.length) '0'
  else digits.take places.toNat ++ '.' :: digits.drop places.toNat

/-- Digits with the point `places` after the first one and at least one digit behind it. -/
def pointed (digits : List Char) (places : Int) : List Char :=
  if digits.length ≤ places then positional digits places ++ ['.', '0']
  else positional digits places

/-- One digit before the point, and an exponent with its sign, for which `plus` stands when it is
positive. -/
def scientific (plus : List Char) (digits : List Char) (exponent : Int) : List Char :=
  let mantissa :=
    match digits with
    | first :: second :: rest => first :: '.' :: second :: rest
    | few => few
  mantissa ++ 'e' :: ((if exponent < 0 then ['-'] else plus) ++ digitsOf exponent.natAbs)

/-- The sign of the text. -/
def signText (x : Binary64) : List Char :=
  if x.negative then ['-'] else []

/-- Without an exponent, and without a point for a whole number. Of two equally near decimals the
greater is written. -/
def plain (x : Binary64) : List Char :=
  let decimal := x.shortest .up
  let digits := digitsOf decimal.digits
  x.signText ++ if x.isZero then ['0'] else positional digits (digits.length + decimal.exponent)

/-- From `0.00001` to below `1e+16` without an exponent and with at least one digit after the
point; outside with a signed exponent. Of two equally near decimals the even one is written. -/
def exact (x : Binary64) : List Char :=
  let decimal := x.shortest .toEven
  let digits := digitsOf decimal.digits
  let places := digits.length + decimal.exponent
  x.signText ++
    if x.isZero then ['0', '.', '0']
    else if -5 < places && places ≤ 16 then pointed digits places
    else scientific ['+'] digits (places - 1)

/-- From `0.0001` to below `1e16` without an exponent and with at least one digit after the point;
outside with an exponent. Of two equally near decimals the greater is written. -/
def spelled (x : Binary64) : List Char :=
  let decimal := x.shortest .up
  let digits := digitsOf decimal.digits
  let places := digits.length + decimal.exponent
  x.signText ++
    if x.isZero then ['0', '.', '0']
    else if -4 < places && places ≤ 16 then pointed digits places
    else scientific [] digits (places - 1)

end DesignTokens.Binary64

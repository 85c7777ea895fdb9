import DesignTokens.Template.Display
import DesignTokens.Template.Expression
import DesignTokens.Template.Fault

/-!
# Calculations

Sums, differences, products and remainders of integers are exact and must fit sixty-four bits:
signed bits if both operands do, else unsigned ones. All other results are doubles, and those of
divisions are integers where they are whole. A result that is no finite number is `none`.
-/

set_option autoImplicit false

namespace DesignTokens.Template

/-- The integers of two numbers that both fit sixty-four bits of one kind, and whether these are
signed. -/
def integerOperands? (x y : Number) : Option (Int × Int × Bool) :=
  match x, y with
  | .integer i, .integer j =>
    -- no integer of a value is below the signed range
    if i < Int.pow 2 63 ∧ j < Int.pow 2 63 then some (i, j, true)
    else if 0 ≤ i ∧ 0 ≤ j then some (i, j, false)
    else none
  | _, _ => none

/-- Whether an integer fits sixty-four bits. -/
def fits (signed : Bool) (i : Int) : Bool :=
  if signed then -Int.pow 2 63 ≤ i && i < Int.pow 2 63 else 0 ≤ i && i < Int.pow 2 64

/-- The integer of a whole double, moved to the nearest end of the signed range if it is outside. -/
def wholeNumber (x : Binary64) : Number :=
  match x.toInt? with
  | some i => .integer (max (-Int.pow 2 63) (min i (Int.pow 2 63 - 1)))
  | none => .float x

/-- The sum, difference or product. `sign` stands for the operator in faults. -/
def combine (sign : String) (exact : Int → Int → Int)
    (rounded : Binary64 → Binary64 → Option Binary64) (x y : Number) :
    Except TemplateFault (Option Number) :=
  match integerOperands? x y with
  | some (i, j, signed) =>
    if fits signed (exact i j) then .ok (some (.integer (exact i j)))
    else .error (.outOfRange i sign j signed)
  | none => .ok ((rounded x.toDouble y.toDouble).map .float)

/-- The remainder, which has the sign of the first operand. A fault shows the expressions that the
operands come from. -/
def remainder (lhs rhs : Expression) (x y : Number) : Except TemplateFault (Option Number) :=
  match integerOperands? x y with
  | some (i, j, _) =>
    if j = 0 then .error (.moduloByZero lhs.describe rhs.describe)
    else .ok (some (.integer (i.tmod j)))
  | none => .ok ((x.toDouble.rem? y.toDouble).map .float)

/-- The result of an operator on numbers that expressions stand for. -/
def Arithmetic.apply (operator : Arithmetic) (lhs rhs : Expression) (x y : Number) :
    Except TemplateFault (Option Number) :=
  match operator with
  | .plus => combine "+" (· + ·) Binary64.add? x y
  | .minus => combine "-" (· - ·) Binary64.sub? x y
  | .times => combine "x" (· * ·) Binary64.mul? x y
  | .divide => .ok ((x.toDouble.div? y.toDouble).map wholeNumber)
  | .modulo => remainder lhs rhs x y

end DesignTokens.Template

import DesignTokens.Stage.Basic
import DesignTokens.Token.Entry

/-!
# Ordering token values

The stage `sortValues` orders values by name, or, with the option `sortBy`, by a subject: the named
field of an object value, or the raw value of any other. Numbers come first, then strings, then
everything without a comparable subject; equal subjects are ordered by name. The sort is stable.
-/

set_option autoImplicit false

namespace DesignTokens

/-- What a value is ordered by. -/
inductive SortKey where
  | integer (i : Int)
  | double (x : Binary64)
  | text (s : String)
  | unordered
deriving DecidableEq, Repr

namespace SortKey

/-- Numbers before strings before the rest. -/
def rank : SortKey → Nat
  | .integer _ | .double _ => 0
  | .text _ => 1
  | .unordered => 2

/-- The comparison of an integer with a double: the integer is first rounded to the nearest
double. -/
def compareRounded (i : Int) (x : Binary64) : Ordering :=
  -- an integer beyond all doubles is compared by its sign
  (Binary64.ofInt? i).elim (compare i 0) fun rounded => rounded.compareTotal x

/-- The order of subjects. -/
def compareKeys : SortKey → SortKey → Ordering
  | .integer a, .integer b => compare a b
  | .double a, .double b => a.compareTotal b
  | .integer a, .double b => compareRounded a b
  | .double a, .integer b => (compareRounded b a).swap
  | .text a, .text b => compare a b
  | a, b => compare a.rank b.rank

/-- The sort key of a subject. An integer that does not fit sixty-four signed bits is taken as the
nearest double. -/
def ofSubject : Option Value → SortKey
  | some (.number (.float x)) => .double x
  | some (.number (.integer i)) =>
    match (Value.number (.integer i)).int64? with
    | some i => .integer i
    -- an integer beyond all doubles counts as no number
    | none => (Binary64.ofInt? i).elim .unordered .double
  | some (.string s) => .text s
  | _ => .unordered

/-- The sort key of a token value by a field. -/
def ofToken (field : String) (token : TokenValue) : SortKey :=
  match token.entry.value with
  | .object members => ofSubject (members.lookup field)
  | raw => ofSubject (some raw)

end SortKey

namespace Stage

/-- Inserts an item into a list that holds the greatest item first, as near to the front as the
comparison allows. -/
def insertLast {α : Type} (less : α → α → Bool) (item : α) : List α → List α
  | [] => [item]
  | last :: rest =>
    if less item last then last :: insertLast less item rest else item :: last :: rest

/-- The list in ascending order. An item passes an earlier one only if it is less, so items that
compare equal keep their order. -/
def sortBy {α : Type} (less : α → α → Bool) (items : List α) : List α :=
  (items.foldl (fun sorted item => insertLast less item sorted) []).reverse

/-- Whether one item's name comes before the other's. -/
def nameLess {α : Type} [Named α] (a b : α) : Bool :=
  decide (Named.name a < Named.name b)

/-- The order of token values by a field and then by name. -/
def compareBy (field : String) (a b : TokenValue) : Ordering :=
  (SortKey.compareKeys (.ofToken field a) (.ofToken field b)).then (compare a.name b.name)

/-- Orders token values by the option `sortBy`, or by name without it. -/
def sortValues : Stage TokenValue := fun options tokens =>
  match Key.sortBy.optional? Shape.string options with
  | none => sortBy nameLess tokens
  | some field => sortBy (fun a b => compareBy field a b == .lt) tokens

end Stage

end DesignTokens

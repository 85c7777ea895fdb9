import DesignTokens.Proofs.Stage.SortValues

/-!
# Integers that are sorted

A document holds integers from `-2 ^ 63` up to `2 ^ 64`. Those below `2 ^ 63` are compared as they
are. From there on an integer is read as its nearest double, and every integer that it meets is
rounded as well. Rounding never reverses two integers, but it may merge them (`Merge`), and then the
names decide. `compareBy_integers` says that this is the only way in which the order of integers
departs from that of the numbers, both in a single comparison and in a list that is sorted.

`sortValues_merged` shows two integers that are merged: they are sorted against their order.
-/

set_option autoImplicit false

namespace DesignTokens

namespace SortKey

/-- Two different integers, not both below `2 ^ 63`, have the same nearest double. -/
def Merge (i j : Int) : Prop :=
  i ≠ j ∧ (2 ^ 63 ≤ i ∨ 2 ^ 63 ≤ j) ∧ Binary64.ofInt? i = Binary64.ofInt? j

instance (i j : Int) : Decidable (Merge i j) :=
  inferInstanceAs (Decidable (_ ∧ _))

/-- The key of an integer subject. -/
def ofInteger (i : Int) : SortKey :=
  ofSubject (some (.number (.integer i)))

/-- An integer of 64 bits with its sign is compared as it is. -/
theorem ofInteger_small {i : Int} (hlow : -2 ^ 63 ≤ i) (hsmall : i < 2 ^ 63) :
    ofInteger i = .integer i := by
  have hfits : (Value.number (.integer i)).int64? = some i := if_pos ⟨hlow, hsmall⟩
  rw [ofInteger, ofSubject, hfits]

/-- A larger one is compared as the double it is rounded to. -/
theorem ofInteger_large {i : Int} (hlarge : 2 ^ 63 ≤ i) (hhigh : i < 2 ^ 64) :
    ∃ x, Binary64.ofInt? i = some x ∧ ofInteger i = .double x := by
  obtain ⟨x, hx⟩ := Binary64.exists_ofInt? (i := i) (by omega) (by omega)
  have hfits : (Value.number (.integer i)).int64? = none :=
    if_neg fun h => absurd h.2 (Int.not_lt.2 hlarge)
  refine ⟨x, hx, ?_⟩
  rw [ofInteger, ofSubject, hfits, hx]
  rfl

/-- An integer is a number, and its place is that of its nearest double. -/
theorem place_ofInteger {i : Int} (hlow : -2 ^ 63 ≤ i) (hhigh : i < 2 ^ 64) :
    (ofInteger i).rank = 0 ∧ (ofInteger i).place = Binary64.roundedKey i := by
  rcases Int.lt_or_le i (2 ^ 63) with hsmall | hlarge
  · rw [ofInteger_small hlow hsmall]
    exact ⟨rfl, rfl⟩
  · obtain ⟨x, hx, hkey⟩ := ofInteger_large hlarge hhigh
    rw [hkey]
    exact ⟨rfl, (Binary64.ofInt?_eq_some_iff.1 hx).symm⟩

/-- Integers are compared as integers, but for those that merge, which are equal. The cases are
whether each of the two lies in the signed range; two that do are never rounded. -/
theorem compareKeys_ofInteger {i j : Int} (hi : -2 ^ 63 ≤ i ∧ i < 2 ^ 64)
    (hj : -2 ^ 63 ≤ j ∧ j < 2 ^ 64) :
    compareKeys (ofInteger i) (ofInteger j) = if Merge i j then .eq else compare i j := by
  by_cases hsmall : i < 2 ^ 63 ∧ j < 2 ^ 63
  · -- two integers below `2 ^ 63` are both kept, so they do not merge
    have hapart : ¬ Merge i j := fun h => h.2.1.elim (by omega) (by omega)
    rw [ofInteger_small hi.1 hsmall.1, ofInteger_small hj.1 hsmall.2, if_neg hapart]
    rfl
  · -- one of the two is a double, so their places are compared
    have hmixed (m n : Int) (hm : ofInteger i = .integer m) : ofInteger j ≠ .integer n := by
      intro hn
      rcases Int.lt_or_le i (2 ^ 63) with hlt | hge
      · obtain ⟨x, -, hkey⟩ := ofInteger_large (i := j) (by omega) hj.2
        rw [hkey] at hn
        cases hn
      · obtain ⟨x, -, hkey⟩ := ofInteger_large hge hi.2
        rw [hkey] at hm
        cases hm
    obtain ⟨hranki, hplacei⟩ := place_ofInteger hi.1 hi.2
    obtain ⟨hrankj, hplacej⟩ := place_ofInteger hj.1 hj.2
    rw [compareKeys_eq_compare_place hranki hrankj hmixed, hplacei, hplacej]
    obtain ⟨x, hx⟩ := Binary64.exists_ofInt? (i := j) (by omega) (by omega)
    have hplaces := Binary64.ofInt?_eq_iff (i := i) hx
    split
    case isTrue hmerge => exact compare_eq_iff_eq.2 (hplaces.1 hmerge.2.2)
    case isFalse hapart =>
      -- apart from those that merge, rounding keeps the order strict
      rcases Int.lt_trichotomy i j with hlt | rfl | hgt
      · have hne : Binary64.roundedKey i ≠ Binary64.roundedKey j :=
          fun heq => hapart ⟨by omega, by omega, hplaces.2 heq⟩
        rw [compare_lt_iff_lt.2 hlt, compare_lt_iff_lt]
        exact lt_of_le_of_ne (Binary64.roundedKey_mono (Int.le_of_lt hlt)) hne
      · rw [Std.compare_self, Std.compare_self]
      · have hne : Binary64.roundedKey j ≠ Binary64.roundedKey i :=
          fun heq => hapart ⟨by omega, by omega, hplaces.2 heq.symm⟩
        rw [compare_gt_iff_gt.2 hgt, compare_gt_iff_gt]
        exact lt_of_le_of_ne (Binary64.roundedKey_mono (Int.le_of_lt hgt)) hne

end SortKey

namespace Stage

open SortKey

/-- The subject of a value is this integer, and a document can hold it. -/
structure IntegerSubject (field : String) (token : TokenValue) (i : Int) : Prop where
  subject : subject? field token.entry = some (.number (.integer i))
  lower : -2 ^ 63 ≤ i
  upper : i < 2 ^ 64

/-- Values with integers are ordered by the integers and then by name, and by name alone if the
integers merge. This is the order of a sorted list as well, unless its keys are blurred. -/
theorem compareBy_integers (field : String) :
    (∀ a b i j, IntegerSubject field a i → IntegerSubject field b j →
      compareBy field a b =
        if Merge i j then compare a.name b.name
        else (compare i j).then (compare a.name b.name)) ∧
    ∀ options tokens, sortField? options = some field →
      ¬ Blurred (keysOf field (tokens.map (·.entry))) →
      (sortValues options tokens).Pairwise fun a b =>
        ∀ i j, IntegerSubject field a i → IntegerSubject field b j →
          if Merge i j then a.name ≤ b.name else i < j ∨ i = j ∧ a.name ≤ b.name := by
  have hcompare (a b : TokenValue) (i j : Int) (ha : IntegerSubject field a i)
      (hb : IntegerSubject field b j) :
      compareBy field a b =
        if Merge i j then compare a.name b.name
        else (compare i j).then (compare a.name b.name) := by
    rw [compareBy, ofToken_eq, ofToken_eq, ofLeaf, ofLeaf, ha.subject, hb.subject]
    show (compareKeys (ofInteger i) (ofInteger j)).then _ = _
    rw [compareKeys_ofInteger ⟨ha.lower, ha.upper⟩ ⟨hb.lower, hb.upper⟩]
    split <;> rfl
  refine ⟨hcompare, fun options tokens hoption hclear => ?_⟩
  have hsorted := pairwise_sortBy_order (compareBy_swap field) fun a b c ha hb hc =>
    compareBy_trans hclear (List.mem_map_of_mem ha) (List.mem_map_of_mem hb)
      (List.mem_map_of_mem hc)
  rw [sortValues_of_field hoption]
  refine hsorted.imp fun {a b} hab i j ha hb => ?_
  rw [hcompare a b i j ha hb] at hab
  split
  case isTrue hmerge =>
    rwa [if_pos hmerge, compare_le_iff_le] at hab
  case isFalse hapart =>
    rw [if_neg hapart] at hab
    -- the list is sorted, so the first integer is not the greater one
    rcases Int.lt_trichotomy i j with hlt | rfl | hgt
    · exact .inl hlt
    · rw [Std.compare_self] at hab
      exact .inr ⟨rfl, compare_le_iff_le.1 hab⟩
    · rw [compare_gt_iff_gt.2 hgt] at hab
      exact absurd rfl hab

/-- The integer `2 ^ 63` and the next one under names in the other order. -/
def neighbours : List TokenValue :=
  [sized "b" (.number (.integer (2 ^ 63))), sized "a" (.number (.integer (2 ^ 63 + 1)))]

/-- The size of such a value is an integer subject. -/
theorem integerSubject_sized (name : String) {i : Int} (hlow : -2 ^ 63 ≤ i) (hhigh : i < 2 ^ 64) :
    IntegerSubject "size" (sized name (.number (.integer i))) i :=
  ⟨rfl, hlow, hhigh⟩

/-- No double of the two blurs integers, as there are only doubles. -/
theorem not_blurred_neighbours : ¬ Blurred (keysOf "size" (neighbours.map (·.entry))) := by
  -- both integers are read as doubles
  have hkeys : keysOf "size" (neighbours.map (·.entry)) =
      [ofInteger (2 ^ 63), ofInteger (2 ^ 63 + 1)] := rfl
  obtain ⟨x, -, hx⟩ := ofInteger_large (i := 2 ^ 63) (by decide) (by decide)
  obtain ⟨y, -, hy⟩ := ofInteger_large (i := 2 ^ 63 + 1) (by decide) (by decide)
  rw [hkeys, hx, hy]
  rintro ⟨i, j, z, -, -, -, hi, -, -⟩
  simp at hi

/-- The two integers merge, so their names decide, and the list is sorted as it says of all
lists. -/
theorem compareBy_integers_neighbours :
    IntegerSubject "size" (sized "b" (.number (.integer (2 ^ 63)))) (2 ^ 63) ∧
      IntegerSubject "size" (sized "a" (.number (.integer (2 ^ 63 + 1)))) (2 ^ 63 + 1) ∧
      Merge (2 ^ 63) (2 ^ 63 + 1) ∧
      compareBy "size" (sized "b" (.number (.integer (2 ^ 63))))
        (sized "a" (.number (.integer (2 ^ 63 + 1)))) = compare "b" "a" ∧
      sortField? bySize = some "size" ∧
      ¬ Blurred (keysOf "size" (neighbours.map (·.entry))) ∧
      (sortValues bySize neighbours).Pairwise fun a b =>
        ∀ i j, IntegerSubject "size" a i → IntegerSubject "size" b j →
          if Merge i j then a.name ≤ b.name else i < j ∨ i = j ∧ a.name ≤ b.name := by
  have hb : IntegerSubject "size" (sized "b" (.number (.integer (2 ^ 63)))) (2 ^ 63) :=
    integerSubject_sized "b" (by decide) (by decide)
  have ha : IntegerSubject "size" (sized "a" (.number (.integer (2 ^ 63 + 1)))) (2 ^ 63 + 1) :=
    integerSubject_sized "a" (by decide) (by decide)
  have hmerge : Merge (2 ^ 63) (2 ^ 63 + 1) := by decide +kernel
  refine ⟨hb, ha, hmerge, ?_, rfl, not_blurred_neighbours, ?_⟩
  · rw [(compareBy_integers "size").1 _ _ _ _ hb ha, if_pos hmerge]
    rfl
  · exact (compareBy_integers "size").2 bySize neighbours rfl not_blurred_neighbours

/-- Two integers that are sorted against their order: the lesser one has the greater name. Both lie
beyond the signed range and are read as the same double. -/
theorem sortValues_merged :
    sortValues bySize neighbours = neighbours.reverse ∧
      subject? "size" (sized "b" (.number (.integer (2 ^ 63)))).entry =
        some (.number (.integer (2 ^ 63))) ∧
      subject? "size" (sized "a" (.number (.integer (2 ^ 63 + 1)))).entry =
        some (.number (.integer (2 ^ 63 + 1))) := by
  decide +kernel

end Stage

end DesignTokens

import DesignTokens.Proofs.Number.Order
import DesignTokens.Stage.Sort
import Mathlib.Data.String.Basic

/-!
# Comparing token values

Token values are compared by their subjects and then by name. Numbers have a place on one scale
(`SortKey.place`): a double its place in the total order of doubles, an integer that of its nearest
double. A lesser place is always less, and equal places are equal except for two integers, which
are compared as they are (`compareKeys_ne_gt_iff`).

So the only way around in a circle leads from an integer to a greater one that rounds to the same
double, from there to this double itself, and back. Keys that hold such three are called `Blurred`.
The main statement, `compareBy_preorder_iff`, says that the comparison is antisymmetric, and that it
is transitive on some leaves, whatever their names, exactly if their keys are not blurred.
`compareBy_circle` is the least circle.
-/

set_option autoImplicit false

namespace DesignTokens

namespace SortKey

/-! ### Subjects -/

/-- What a leaf is ordered by: the field of an object, or the raw value of any other. -/
def subject? (field : String) (leaf : Entry) : Option Value :=
  match leaf.value with
  | .object members => members.lookup field
  | raw => some raw

/-- The sort key of a leaf by a field. -/
def ofLeaf (field : String) (leaf : Entry) : SortKey :=
  ofSubject (subject? field leaf)

/-- The name of a token value has no part in its key. -/
theorem ofToken_eq (field : String) (token : TokenValue) :
    ofToken field token = ofLeaf field token.entry := by
  unfold ofToken ofLeaf subject?
  cases token.entry.value <;> rfl

/-- The sort keys of some leaves. -/
def keysOf (field : String) (leaves : List Entry) : List SortKey :=
  leaves.map (ofLeaf field)

/-- The key of a leaf is among the keys of the leaves. -/
theorem mem_keysOf {field : String} {leaves : List Entry} {leaf : Entry} (h : leaf ∈ leaves) :
    ofLeaf field leaf ∈ keysOf field leaves :=
  List.mem_map_of_mem h

/-! ### The comparison of keys -/

/-- The place of a number on one scale. -/
def place : SortKey → Int
  | .integer i => Binary64.roundedKey i
  | .double x => x.totalKey
  | _ => 0

/-- An integer and a double are compared by where the rounded integer stands among the doubles. -/
theorem compareRounded_eq (i : Int) (x : Binary64) :
    compareRounded i x = compare (Binary64.roundedKey i) x.totalKey := by
  cases hrounded : Binary64.ofInt? i with
  | some rounded =>
    rw [compareRounded, hrounded, Binary64.ofInt?_eq_some_iff.1 hrounded]
    rfl
  | none =>
    -- an integer that is too large for a double lies beyond all doubles, on its side of zero
    rw [compareRounded, hrounded, Option.elim_none]
    rcases Binary64.place_of_ofInt?_eq_none hrounded with ⟨hpos, hall⟩ | ⟨hneg, hall⟩
    · rw [compare_gt_iff_gt.2 hpos, compare_gt_iff_gt.2 (hall x)]
    · rw [compare_lt_iff_lt.2 hneg, compare_lt_iff_lt.2 (hall x)]

/-- Swapping the arguments reverses the outcome. -/
theorem compareKeys_swap (k l : SortKey) : compareKeys l k = (compareKeys k l).swap := by
  have hint (a b : Int) : compare b a = (compare a b).swap := Std.OrientedCmp.eq_swap
  cases k <;> cases l <;> simp only [compareKeys, Binary64.compareTotal, Ordering.swap_swap]
  case integer.integer => exact hint ..
  case double.double => exact hint ..
  case text.text => exact Std.OrientedCmp.eq_swap
  all_goals rfl

/-- Numbers come before texts, and both before everything else. -/
theorem compareKeys_of_rank_lt {k l : SortKey} (h : k.rank < l.rank) : compareKeys k l = .lt := by
  cases k <;> cases l <;> first | rfl | exact absurd h (Nat.not_lt_of_le (by simp [rank]))

/-- A key that does not come behind another has no greater rank. -/
theorem rank_le_of_ne_gt {k l : SortKey} (h : compareKeys k l ≠ .gt) : k.rank ≤ l.rank := by
  by_contra hlt
  rw [compareKeys_swap, compareKeys_of_rank_lt (Nat.lt_of_not_le hlt)] at h
  exact h rfl

/-- Two numbers that are not both integers are compared by their places. An integer has the place of
the double that it is rounded to, so this is where rounding comes in. -/
theorem compareKeys_eq_compare_place {k l : SortKey} (hk : k.rank = 0) (hl : l.rank = 0)
    (hmixed : ∀ i j, k = .integer i → l ≠ .integer j) :
    compareKeys k l = compare k.place l.place := by
  cases k with
  | integer i =>
    cases l with
    | integer j => exact absurd rfl (hmixed i j rfl)
    | double y => exact compareRounded_eq i y
    | text | unordered => cases hl
  | double x =>
    cases l with
    | integer j =>
      show (compareRounded j x).swap = compare x.totalKey (Binary64.roundedKey j)
      rw [compareRounded_eq]
      exact Std.OrientedCmp.eq_swap.symm
    | double y => rfl
    | text | unordered => cases hl
  | text | unordered => cases hk

/-- Numbers are compared by their places, and two integers of one place as they are. Rounding never
reverses two integers, so the places decide between integers, too, as far as they differ. -/
theorem compareKeys_ne_gt_iff {k l : SortKey} (hk : k.rank = 0) (hl : l.rank = 0) :
    compareKeys k l ≠ .gt ↔
      k.place < l.place ∨
        k.place = l.place ∧ ∀ i j, k = .integer i → l = .integer j → i ≤ j := by
  by_cases hboth : ∃ i j, k = .integer i ∧ l = .integer j
  · obtain ⟨i, j, rfl, rfl⟩ := hboth
    show compare i j ≠ .gt ↔ Binary64.roundedKey i < Binary64.roundedKey j ∨
      Binary64.roundedKey i = Binary64.roundedKey j ∧ _
    rw [compare_le_iff_le]
    constructor
    · intro hle
      refine (lt_or_eq_of_le (Binary64.roundedKey_mono hle)).imp_right fun heq => ⟨heq, ?_⟩
      rintro _ _ ⟨⟩ ⟨⟩
      exact hle
    · rintro (hlt | ⟨-, hle⟩)
      · -- rounding would not have reversed the integers
        by_contra hgt
        exact absurd (Binary64.roundedKey_mono (le_of_not_ge hgt)) (not_le_of_gt hlt)
      · exact hle i j rfl rfl
  · have hmixed (i j : Int) (hi : k = .integer i) : l ≠ .integer j :=
      fun hj => hboth ⟨i, j, hi, hj⟩
    rw [compareKeys_eq_compare_place hk hl hmixed, compare_le_iff_le, le_iff_lt_or_eq]
    exact or_congr_right (iff_self_and.2 fun _ i j hi hj => absurd hj (hmixed i j hi))

/-! ### Blurred keys -/

/-- Two different integers round to the same double, and all three are among the keys. -/
def Blurred (keys : List SortKey) : Prop :=
  ∃ i j x, i ≠ j ∧ Binary64.ofInt? i = some x ∧ Binary64.ofInt? j = some x ∧
    .integer i ∈ keys ∧ .integer j ∈ keys ∧ .double x ∈ keys

/-- An integer and its nearest double are equal, so a lesser integer that rounds to the same double
closes a circle. -/
theorem compareKeys_circle {i j : Int} {x : Binary64} (hlt : j < i)
    (hi : Binary64.ofInt? i = some x) (hj : Binary64.ofInt? j = some x) :
    compareKeys (.integer i) (.double x) = .eq ∧ compareKeys (.double x) (.integer j) = .eq ∧
      compareKeys (.integer i) (.integer j) = .gt := by
  refine ⟨?_, ?_, compare_gt_iff_gt.2 hlt⟩
  · show compareRounded i x = .eq
    rw [compareRounded_eq, Binary64.ofInt?_eq_some_iff.1 hi, compare_eq_iff_eq]
  · show (compareRounded j x).swap = .eq
    rw [compareRounded_eq, Binary64.ofInt?_eq_some_iff.1 hj, Ordering.swap_eq_eq,
      compare_eq_iff_eq]

/-- Keys that are not blurred are compared transitively. Ranks decide first. Among numbers the
places do, and what is left are three numbers of one place: integers there would be compared as they
are, and without a double between them that is in order. -/
theorem compareKeys_trans {keys : List SortKey} (hclear : ¬ Blurred keys) {a b c : SortKey}
    (ha : a ∈ keys) (hb : b ∈ keys) (hc : c ∈ keys) (hab : compareKeys a b ≠ .gt)
    (hbc : compareKeys b c ≠ .gt) : compareKeys a c ≠ .gt := by
  have hranks := Nat.le_trans (rank_le_of_ne_gt hab) (rank_le_of_ne_gt hbc)
  rcases Nat.lt_or_eq_of_le hranks with hlt | heq
  · rw [compareKeys_of_rank_lt hlt]
    decide
  -- all three are of one kind
  have hsame : a.rank = b.rank := Nat.le_antisymm (rank_le_of_ne_gt hab)
    (heq ▸ rank_le_of_ne_gt hbc)
  by_cases hnumber : a.rank = 0
  · have hkb : b.rank = 0 := hsame ▸ hnumber
    have hkc : c.rank = 0 := heq ▸ hnumber
    rw [compareKeys_ne_gt_iff hnumber hkb] at hab
    rw [compareKeys_ne_gt_iff hkb hkc] at hbc
    rw [compareKeys_ne_gt_iff hnumber hkc]
    rcases hab with hab | ⟨hab, hle⟩ <;> rcases hbc with hbc | ⟨hbc, hle'⟩
    · exact .inl (hab.trans hbc)
    · exact .inl (hbc ▸ hab)
    · exact .inl (hab ▸ hbc)
    · -- one place for all three: two integers must not have a double between them
      refine .inr ⟨hab.trans hbc, fun i j hi hj => ?_⟩
      subst hi hj
      cases b with
      | integer m => exact (hle i m rfl rfl).trans (hle' m j rfl rfl)
      | double x =>
        by_contra hgt
        refine hclear ⟨i, j, x, by omega, ?_, ?_, ha, hc, hb⟩
        · exact Binary64.ofInt?_eq_some_iff.2 hab
        · exact Binary64.ofInt?_eq_some_iff.2 hbc.symm
      | text | unordered => cases hkb
  · cases a with
    | integer | double => exact absurd rfl hnumber
    | unordered =>
      cases c with
      | unordered => decide
      | integer | double | text => cases heq
    | text s =>
      cases b with
      | integer | double | unordered => cases hsame
      | text t =>
        cases c with
        | integer | double | unordered => cases heq
        | text u =>
          change compare s t ≠ .gt at hab
          change compare t u ≠ .gt at hbc
          show compare s u ≠ .gt
          rw [compare_le_iff_le] at hab hbc ⊢
          exact hab.trans hbc

end SortKey

namespace Stage

open SortKey

/-! ### The comparison of token values -/

/-- One value is not greater than another if its key is less, or if its key is not greater and
neither is its name. -/
theorem compareBy_ne_gt_iff {field : String} {a b : TokenValue} :
    compareBy field a b ≠ .gt ↔
      compareKeys (ofLeaf field a.entry) (ofLeaf field b.entry) = .lt ∨
        compareKeys (ofLeaf field a.entry) (ofLeaf field b.entry) = .eq ∧ a.name ≤ b.name := by
  rw [compareBy, ofToken_eq, ofToken_eq, ← compare_le_iff_le (a := a.name)]
  cases compareKeys (ofLeaf field a.entry) (ofLeaf field b.entry) <;> simp

/-- Exchanging two values turns their comparison around. -/
theorem compareBy_swap (field : String) (a b : TokenValue) :
    compareBy field b a = (compareBy field a b).swap := by
  rw [compareBy, compareBy, Ordering.swap_then, compareKeys_swap (ofToken field a)]
  congr 1
  exact Std.OrientedCmp.eq_swap

/-- Values whose keys are not blurred are compared transitively. Where the keys are equal the names
decide, and equality of keys goes along by the same lemma from the other side. -/
theorem compareBy_trans {field : String} {leaves : List Entry}
    (hclear : ¬ Blurred (keysOf field leaves)) {a b c : TokenValue} (ha : a.entry ∈ leaves)
    (hb : b.entry ∈ leaves) (hc : c.entry ∈ leaves) (hab : compareBy field a b ≠ .gt)
    (hbc : compareBy field b c ≠ .gt) : compareBy field a c ≠ .gt := by
  rw [compareBy_ne_gt_iff] at hab hbc ⊢
  -- the keys go around in no circle, so they are equal only if all three are
  have hkeys := compareKeys_trans hclear (mem_keysOf ha) (mem_keysOf hb) (mem_keysOf hc)
  have hback := compareKeys_trans hclear (mem_keysOf hc) (mem_keysOf ha) (mem_keysOf hb)
  have hforth := compareKeys_trans hclear (mem_keysOf hb) (mem_keysOf hc) (mem_keysOf ha)
  rw [compareKeys_swap (ofLeaf field a.entry) (ofLeaf field c.entry)] at hback hforth
  rw [compareKeys_swap (ofLeaf field b.entry) (ofLeaf field c.entry)] at hback
  rw [compareKeys_swap (ofLeaf field a.entry) (ofLeaf field b.entry)] at hforth
  generalize compareKeys (ofLeaf field a.entry) (ofLeaf field b.entry) = ab at *
  generalize compareKeys (ofLeaf field b.entry) (ofLeaf field c.entry) = bc at *
  generalize compareKeys (ofLeaf field a.entry) (ofLeaf field c.entry) = ac at *
  rcases hab with rfl | ⟨rfl, hab⟩ <;> rcases hbc with rfl | ⟨rfl, hbc⟩ <;>
    cases ac <;> simp_all
  exact hab.trans hbc

/-- The comparison of token values is antisymmetric. It is transitive on all values with some
leaves exactly if the keys of the leaves are not blurred. -/
theorem compareBy_preorder_iff (field : String) :
    (∀ a b, compareBy field b a = (compareBy field a b).swap) ∧
    ∀ leaves : List Entry,
      (∀ a b c : TokenValue, a.entry ∈ leaves → b.entry ∈ leaves → c.entry ∈ leaves →
          compareBy field a b ≠ .gt → compareBy field b c ≠ .gt → compareBy field a c ≠ .gt) ↔
        ¬ Blurred (keysOf field leaves) := by
  refine ⟨compareBy_swap field, fun leaves => ⟨?_, ?_⟩⟩
  · rintro htrans ⟨i, j, x, hne, hi, hj, hmi, hmj, hmx⟩
    obtain ⟨greater, hgreater, hkeyi⟩ := List.mem_map.1 hmi
    obtain ⟨lesser, hlesser, hkeyj⟩ := List.mem_map.1 hmj
    obtain ⟨between, hbetween, hkeyx⟩ := List.mem_map.1 hmx
    -- under one name, the keys alone decide
    have hname (a b : Entry) :
        compareBy field ⟨"", a⟩ ⟨"", b⟩ = compareKeys (ofLeaf field a) (ofLeaf field b) := by
      rw [compareBy, ofToken_eq, ofToken_eq, Std.compare_self, Ordering.then_eq]
    have hcircle (a b : Entry) (ha : a ∈ leaves) (hb : b ∈ leaves) (m n : Int) (hlt : n < m)
        (hm : Binary64.ofInt? m = some x) (hn : Binary64.ofInt? n = some x)
        (hkeya : ofLeaf field a = .integer m) (hkeyb : ofLeaf field b = .integer n) : False := by
      obtain ⟨hab, hbc, hac⟩ := compareKeys_circle hlt hm hn
      refine htrans ⟨"", a⟩ ⟨"", between⟩ ⟨"", b⟩ ha hbetween hb ?_ ?_ ?_
      · rw [hname, hkeya, hkeyx, hab]
        decide
      · rw [hname, hkeyx, hkeyb, hbc]
        decide
      · rw [hname, hkeya, hkeyb, hac]
    rcases Int.lt_or_gt_of_ne hne with hlt | hgt
    · exact hcircle lesser greater hlesser hgreater j i hlt hj hi hkeyj hkeyi
    · exact hcircle greater lesser hgreater hlesser i j hgt hi hj hkeyi hkeyj
  · intro hclear a b c ha hb hc
    exact compareBy_trans hclear ha hb hc

/-- A number under a name. -/
def numbered (name : String) (number : Number) : TokenValue :=
  ⟨name, ⟨"number", .number number, none⟩⟩

/-- The double `2 ^ 53`, to which the integers `2 ^ 53` and `2 ^ 53 + 1` round. -/
def limit : Binary64 := ⟨false, 0x4340000000000000, by decide⟩

/-- Three numbers in a circle. Their order after sorting depends on their order before, so the
result is not determined by the values, as it is with any total order. -/
theorem compareBy_circle :
    let a := numbered "a" (.integer (2 ^ 53 + 1))
    let b := numbered "b" (.float limit)
    let c := numbered "c" (.integer (2 ^ 53))
    let options := some (.object [("sortBy", .string "size")])
    compareBy "size" a b ≠ .gt ∧ compareBy "size" b c ≠ .gt ∧ compareBy "size" a c = .gt ∧
      sortValues options [a, b, c] = [a, b, c] ∧ sortValues options [c, a, b] = [c, a, b] := by
  decide +kernel

end Stage

end DesignTokens

import DesignTokens.Proofs.Text.ByteOrder
import DesignTokens.Stage.Sort
import Mathlib.Data.List.Perm.Basic

/-!
# Sorting

`Stage.sortBy` inserts one item after the other. Its laws come from those of one insertion. The
result is a permutation of the items (`sortBy_perm`), it is ascending for a comparison that orders
the items (`pairwise_sortBy`), and items that are not less than one another keep their order
(`filter_sortBy`). For the order by names, `sortBy_nameLess_split` finds the last item of a name in
the result, and a sorted list is the only one with its items of each name (`eq_of_filter_name`).
-/

set_option autoImplicit false

namespace DesignTokens.Stage

variable {α : Type}

/-! ### One insertion -/

/-- Inserting an item adds that item and nothing else. -/
theorem insertLast_perm (less : α → α → Bool) (item : α) (items : List α) :
    (insertLast less item items).Perm (item :: items) := by
  induction items with
  | nil => exact List.Perm.refl _
  | cons last rest ih =>
    rw [insertLast]
    split
    · exact (ih.cons last).trans (List.Perm.swap item last rest)
    · exact List.Perm.refl _

/-- Insertion keeps a list descending, if the comparison orders the items that are present. The list
is kept in reverse while it is sorted, as insertion starts from its end. -/
theorem pairwise_insertLast {less : α → α → Bool} {present : α → Prop}
    (hasymm : ∀ a b, present a → present b → less a b = true → less b a = false)
    (htrans : ∀ a b c, present a → present b → present c →
      less b a = false → less c b = false → less c a = false)
    {item : α} {items : List α} (hitem : present item) (hitems : ∀ other ∈ items, present other)
    (h : items.Pairwise fun a b => less a b = false) :
    (insertLast less item items).Pairwise fun a b => less a b = false := by
  induction items with
  | nil => simp [insertLast]
  | cons last rest ih =>
    obtain ⟨hlast, hrest⟩ := List.pairwise_cons.1 h
    obtain ⟨hpresent, hothers⟩ := List.forall_mem_cons.1 hitems
    rw [insertLast]
    split
    · rename_i hless
      refine List.pairwise_cons.2 ⟨?_, ih hothers hrest⟩
      intro other hmem
      rcases List.mem_cons.1 ((insertLast_perm less item rest).mem_iff.1 hmem) with rfl | hmem
      · exact hasymm _ _ hitem hpresent hless
      · exact hlast other hmem
    · rename_i hless
      have hfirst : less item last = false := by simpa using hless
      refine List.pairwise_cons.2 ⟨?_, h⟩
      intro other hmem
      rcases List.mem_cons.1 hmem with rfl | hmem
      · exact hfirst
      · exact htrans _ _ _ (hothers other hmem) hpresent hitem (hlast other hmem) hfirst

/-- Among items that are not less than one another, a new one stands in front. -/
theorem filter_insertLast {less : α → α → Bool} {keep : α → Bool}
    (hkeep : ∀ a b, keep a = true → keep b = true → less a b = false) (item : α)
    (items : List α) :
    (insertLast less item items).filter keep = (item :: items).filter keep := by
  induction items with
  | nil => rfl
  | cons last rest ih =>
    rw [insertLast]
    split
    · rename_i hless
      rw [List.filter_cons, ih]
      by_cases hlast : keep last = true
      · -- the item passes `last`, so it is not kept
        have hitem : keep item = false := by
          by_contra hitem
          rw [hkeep item last (by simpa using hitem) hlast] at hless
          cases hless
        simp [hitem, hlast]
      · simp [List.filter_cons, hlast]
    · rfl

/-! ### The sort -/

/-- Sorting loses nothing and adds nothing, whatever the comparison is like. The induction is on the
items that are still to be inserted, for any list that was sorted by then. -/
theorem sortBy_perm (less : α → α → Bool) (items : List α) :
    (sortBy less items).Perm items := by
  have hfold : ∀ sorted : List α,
      (items.foldl (fun sorted item => insertLast less item sorted) sorted).Perm
        (items ++ sorted) := by
    induction items with
    | nil => exact fun sorted => List.Perm.refl _
    | cons item items ih =>
      intro sorted
      refine (ih _).trans ?_
      exact ((insertLast_perm less item sorted).append_left items).trans List.perm_middle
  have h := hfold []
  rw [List.append_nil] at h
  exact (List.reverse_perm _).trans h

/-- A sorted list has the items of the list. -/
theorem mem_sortBy {less : α → α → Bool} {items : List α} {item : α} :
    item ∈ sortBy less items ↔ item ∈ items :=
  (sortBy_perm less items).mem_iff

/-- The result is ascending, if the comparison orders the items that are sorted. It need not order
anything else, which is what mixed numbers ask for. -/
theorem pairwise_sortBy_of_mem {less : α → α → Bool} {items : List α}
    (hasymm : ∀ a b, a ∈ items → b ∈ items → less a b = true → less b a = false)
    (htrans : ∀ a b c, a ∈ items → b ∈ items → c ∈ items →
      less b a = false → less c b = false → less c a = false) :
    (sortBy less items).Pairwise fun a b => less b a = false := by
  have hfold : ∀ later sorted : List α, (∀ item ∈ later, item ∈ items) →
      (∀ item ∈ sorted, item ∈ items) → sorted.Pairwise (fun a b => less a b = false) →
      (later.foldl (fun sorted item => insertLast less item sorted) sorted).Pairwise
        fun a b => less a b = false := by
    intro later
    induction later with
    | nil => exact fun sorted _ _ h => h
    | cons item later ih =>
      intro sorted hlater hsorted h
      obtain ⟨hitem, hlater⟩ := List.forall_mem_cons.1 hlater
      refine ih _ hlater ?_ (pairwise_insertLast hasymm htrans hitem hsorted h)
      intro other hmem
      rcases List.mem_cons.1 ((insertLast_perm less item sorted).mem_iff.1 hmem) with rfl | hmem
      · exact hitem
      · exact hsorted other hmem
  exact List.pairwise_reverse.2 (hfold items [] (fun _ h => h) (List.forall_mem_nil _)
    List.Pairwise.nil)

/-- With an asymmetric and transitive comparison, no item of a sorted list stands behind one that it
is less than. -/
theorem pairwise_sortBy {less : α → α → Bool}
    (hasymm : ∀ a b, less a b = true → less b a = false)
    (htrans : ∀ a b c, less b a = false → less c b = false → less c a = false)
    (items : List α) : (sortBy less items).Pairwise fun a b => less b a = false :=
  pairwise_sortBy_of_mem (fun a b _ _ => hasymm a b) fun a b c _ _ _ => htrans a b c

/-- Items that are not less than one another keep their order. An item is inserted behind all that
it is not less than, which are all of its kind. -/
theorem filter_sortBy {less : α → α → Bool} {keep : α → Bool}
    (hkeep : ∀ a b, keep a = true → keep b = true → less a b = false) (items : List α) :
    (sortBy less items).filter keep = items.filter keep := by
  have hfold : ∀ sorted : List α,
      (items.foldl (fun sorted item => insertLast less item sorted) sorted).filter keep =
        (items.filter keep).reverse ++ sorted.filter keep := by
    induction items with
    | nil => exact fun sorted => rfl
    | cons item items ih =>
      intro sorted
      rw [List.foldl_cons, ih, filter_insertLast hkeep]
      by_cases hitem : keep item = true <;> simp [hitem]
  rw [sortBy, List.filter_reverse, hfold]
  simp

/-! ### Names -/

section
variable [Named α]

/-- Of two names, at most one is less than the other. -/
theorem nameLess_asymm (a b : α) (h : nameLess a b = true) : nameLess b a = false := by
  simp only [nameLess, decide_eq_true_eq, decide_eq_false_iff_not] at h ⊢
  exact fun hba => absurd (String.lt_trans h hba) (String.lt_irrefl _)

/-- The comparison of names is transitive, in the form in which sorting uses it. -/
theorem nameLess_trans (a b c : α) (hab : nameLess b a = false) (hbc : nameLess c b = false) :
    nameLess c a = false := by
  simp only [nameLess, decide_eq_false_iff_not, String.not_lt] at hab hbc ⊢
  exact String.le_trans hab hbc

/-- A name is not less than another if its bytes do not come before those of the other. -/
theorem nameLess_eq_false_iff {a b : α} :
    nameLess b a = false ↔ Text.bytes (Named.name a) ≤ Text.bytes (Named.name b) := by
  rw [nameLess, decide_eq_false_iff_not, Text.lt_iff_bytes, List.not_lt]

/-- Items of one name are not less than each other, so sorting keeps their order. -/
theorem nameLess_of_names (name : String) (a b : α)
    (ha : decide (Named.name a = name) = true) (hb : decide (Named.name b = name) = true) :
    nameLess a b = false := by
  rw [decide_eq_true_eq] at ha hb
  simp [nameLess, ha, hb]

/-- A list ordered by name is determined by its items of each name, in their order. The first items
of two such lists must have one name, as each occurs in the other list behind its first item; then
they are equal, and the rest follows. -/
theorem eq_of_filter_name {items others : List α}
    (hitems : items.Pairwise fun a b => nameLess b a = false)
    (hothers : others.Pairwise fun a b => nameLess b a = false)
    (h : ∀ name, items.filter (fun item => Named.name item = name) =
      others.filter fun item => Named.name item = name) : items = others := by
  have hempty : ∀ list : List α, (∀ name, list.filter (fun item => Named.name item = name) = []) →
      list = [] := by
    intro list hnone
    cases list with
    | nil => rfl
    | cons first list => simpa using hnone (Named.name first)
  -- the first item of one list is kept in the other, and stands behind the first one there
  have hfirst : ∀ (a b : α) (as bs : List α),
      (b :: bs).Pairwise (fun a b => nameLess b a = false) →
      (a :: as).filter (fun item => Named.name item = Named.name a) =
        (b :: bs).filter (fun item => Named.name item = Named.name a) →
      nameLess a b = false := by
    intro a b as bs hsorted hsame
    have hmem : a ∈ (b :: bs).filter fun item => Named.name item = Named.name a := by
      rw [← hsame]
      simp
    rcases List.mem_cons.1 (List.mem_filter.1 hmem).1 with rfl | hmem
    · simp [nameLess]
    · exact (List.pairwise_cons.1 hsorted).1 a hmem
  induction items generalizing others with
  | nil => exact (hempty others fun name => (h name).symm).symm
  | cons a as ih =>
    cases others with
    | nil => exact hempty (a :: as) h
    | cons b bs =>
      have hab := hfirst a b as bs hothers (h _)
      have hba := hfirst b a bs as hitems (h _).symm
      have hname : Named.name a = Named.name b := by
        simp only [nameLess, decide_eq_false_iff_not, String.not_lt] at hab hba
        exact String.le_antisymm hba hab
      have hsame := h (Named.name a)
      simp only [List.filter_cons, hname, decide_true, if_true, List.cons.injEq] at hsame
      obtain ⟨rfl, -⟩ := hsame
      rw [ih (List.pairwise_cons.1 hitems).2 (List.pairwise_cons.1 hothers).2]
      intro name
      have hrest := h name
      simp only [List.filter_cons] at hrest
      split at hrest
      · exact (List.cons.inj hrest).2
      · exact hrest

/-- The last item of a name stands behind the sort in front of items with greater names only. It is
the last of its name after the sort as well, since items of one name keep their order. -/
theorem sortBy_nameLess_split {items start : List α} {last : α} {name : String}
    (h : items.filter (fun item => Named.name item = name) = start ++ [last]) :
    ∃ before after, sortBy nameLess items = before ++ last :: after ∧
      ∀ item ∈ after, name < Named.name item := by
  have hfilter := filter_sortBy (nameLess_of_names name) items
  rw [h, List.filter_eq_append_iff] at hfilter
  obtain ⟨front, back, hsorted, -, hback⟩ := hfilter
  obtain ⟨middle, after, rfl, -, hlast, hafter⟩ := List.filter_eq_cons_iff.1 hback
  refine ⟨front ++ middle, after, by rw [hsorted, List.append_assoc], ?_⟩
  intro item hmem
  have hne : Named.name item ≠ name := by
    simpa using List.filter_eq_nil_iff.1 hafter item hmem
  have hle : nameLess item last = false := by
    have hpairwise := pairwise_sortBy nameLess_asymm nameLess_trans items
    rw [hsorted] at hpairwise
    have htail := (List.pairwise_append.1 (List.pairwise_append.1 hpairwise).2.1).2.1
    exact (List.pairwise_cons.1 htail).1 item hmem
  simp only [decide_eq_true_eq] at hlast
  simp only [nameLess, hlast, decide_eq_false_iff_not, String.not_lt] at hle
  exact Std.lt_of_le_of_ne hle hne.symm

end

end DesignTokens.Stage

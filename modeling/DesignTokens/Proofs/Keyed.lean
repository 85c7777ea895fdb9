import DesignTokens.Keyed
import Mathlib.Data.List.Sort

/-!
# Laws of sorted tables

What is found in a table under a key. In an ascending table a pair is found under its key
(`lookup_eq_some_iff`), it is the only one (`filter_key`), and the pairs of lesser keys stand in
front of it (`exists_append`, `mem_front`). A table of pairs holds the last value of each key
(`lookup_ofList`), and its keys are those of the pairs (`mem_keys_ofList`).
-/

set_option autoImplicit false

namespace DesignTokens.Keyed

universe u

variable {α : Type u}

/-- An entry with another key does not change a look-up. -/
theorem lookup_cons_of_ne {key k : String} (h : key ≠ k) (value : α) (rest : List (String × α)) :
    ((k, value) :: rest).lookup key = rest.lookup key := by
  have hne : (key == k) = false := by simpa using h
  rw [List.lookup_cons, hne]

/-- What is found under a key stands in the table. -/
theorem mem_of_lookup {table : List (String × α)} {key : String} {value : α}
    (h : table.lookup key = some value) : (key, value) ∈ table := by
  induction table with
  | nil => simp at h
  | cons first rest ih =>
    obtain ⟨k, v⟩ := first
    by_cases hk : key = k
    · subst hk
      simp only [List.lookup_cons_self, Option.some.injEq] at h
      simp [h]
    · rw [lookup_cons_of_ne hk] at h
      exact List.mem_cons_of_mem _ (ih h)

/-- In an ascending table, a pair that stands in it is found under its key. A look-up takes the
first pair of the key, and in such a table there is no other. -/
theorem lookup_eq_some_iff {table : List (String × α)} (h : Ascending table) {key : String}
    {value : α} : table.lookup key = some value ↔ (key, value) ∈ table := by
  refine ⟨mem_of_lookup, fun hmem => ?_⟩
  induction table with
  | nil => simp at hmem
  | cons first rest ih =>
    obtain ⟨k, v⟩ := first
    obtain ⟨hless, hrest⟩ := h
    rcases List.mem_cons.mp hmem with heq | hmem
    · cases heq
      simp
    · have hne : key ≠ k := fun heq => String.lt_irrefl k (heq ▸ hless _ hmem)
      rw [lookup_cons_of_ne hne]
      exact ih hrest hmem

/-- In an ascending table a key has one pair at most: to keep the pairs of a key is to look it
up. -/
theorem filter_key {table : List (String × α)} (h : Ascending table) (key : String) :
    table.filter (fun pair => pair.1 = key) =
      ((table.lookup key).map fun value => (key, value)).toList := by
  induction table with
  | nil => rfl
  | cons first rest ih =>
    obtain ⟨k, v⟩ := first
    obtain ⟨hless, hrest⟩ := h
    by_cases hk : k = key
    · subst hk
      have hnone : rest.filter (fun pair => pair.1 = k) = [] := by
        rw [List.filter_eq_nil_iff]
        intro pair hmem
        have hlt := hless pair hmem
        simp only [decide_eq_true_eq]
        exact fun heq => String.lt_irrefl k (heq ▸ hlt)
      simp [hnone]
    · rw [lookup_cons_of_ne (Ne.symm hk), ← ih hrest]
      simp [hk]

/-- In an ascending table the pair of a lesser key comes first. So a table that is restricted to two
keys is the two restrictions in turn. -/
theorem filter_or {table : List (String × α)} (h : Ascending table) {key later : String}
    (hkeys : key < later) :
    table.filter (fun pair => pair.1 = key || pair.1 = later) =
      table.filter (fun pair => pair.1 = key) ++ table.filter (fun pair => pair.1 = later) := by
  induction table with
  | nil => rfl
  | cons first rest ih =>
    obtain ⟨k, v⟩ := first
    obtain ⟨hless, hrest⟩ := h
    have hne : key ≠ later := fun heq => String.lt_irrefl later (heq ▸ hkeys)
    by_cases hk : k = key
    · subst hk
      simp [ih hrest, hne]
    · by_cases hl : k = later
      · -- no key behind the later one is the lesser one
        subst hl
        have hnone : rest.filter (fun pair => pair.1 = key) = [] := by
          rw [List.filter_eq_nil_iff]
          intro pair hmem
          have hlt := String.lt_trans hkeys (hless pair hmem)
          simp only [decide_eq_true_eq]
          exact fun heq => String.lt_irrefl key (heq ▸ hlt)
        simp [ih hrest, hnone, hk]
      · simp [ih hrest, hk, hl]

/-- A pair of an ascending table stands behind the pairs of lesser keys. So the table can be cut at
any of its pairs, and the part in front is known without looking for it. -/
theorem exists_append {table : List (String × α)} (h : Ascending table) {key : String} {value : α}
    (hmem : (key, value) ∈ table) :
    ∃ rest, table = table.filter (fun pair => pair.1 < key) ++ (key, value) :: rest := by
  induction table with
  | nil => cases hmem
  | cons first rest ih =>
    obtain ⟨hless, hrest⟩ := h
    rcases List.mem_cons.1 hmem with rfl | hmem
    · have hnone : rest.filter (fun pair => pair.1 < key) = [] := by
        rw [List.filter_eq_nil_iff]
        intro pair hpair
        simp only [decide_eq_true_eq]
        exact fun hlt => String.lt_irrefl key (String.lt_trans (hless pair hpair) hlt)
      refine ⟨rest, ?_⟩
      have hkey : decide (key < key) ≠ true := of_decide_eq_true.mt (String.lt_irrefl key)
      rw [List.filter_cons, if_neg hkey, hnone, List.nil_append]
    · obtain ⟨later, hlater⟩ := ih hrest hmem
      refine ⟨later, ?_⟩
      have hfirst : decide (first.1 < key) = true := decide_eq_true (hless _ hmem)
      rw [List.filter_cons, if_pos hfirst, List.cons_append, ← hlater]

/-- The pairs of lesser keys stand in front of a pair. Where a run stops at one section, this tells
that the sections of lesser names were done by then. -/
theorem mem_front {front behind : List (String × α)} {pair other : String × α}
    (h : Ascending (front ++ pair :: behind)) (hmem : other ∈ front ++ pair :: behind)
    (hlt : other.1 < pair.1) : other ∈ front := by
  induction front with
  | nil =>
    rcases List.mem_cons.1 hmem with rfl | hmem
    · exact absurd hlt (String.lt_irrefl _)
    · exact absurd (String.lt_trans hlt (h.1 other hmem)) (String.lt_irrefl _)
  | cons first front ih =>
    rcases List.mem_cons.1 hmem with rfl | hmem
    · exact List.mem_cons_self
    · exact List.mem_cons_of_mem _ (ih h.2 hmem)

/-! ### Tables of pairs -/

/-- What was inserted is found. -/
@[simp]
theorem lookup_insert_self (key : String) (value : α) (table : List (String × α)) :
    (insert key value table).lookup key = some value := by
  induction table with
  | nil => simp [insert]
  | cons first rest ih =>
    obtain ⟨k, v⟩ := first
    rw [insert]
    split
    · simp
    · split
      · simp
      · rename_i hne
        rw [lookup_cons_of_ne hne, ih]

/-- An insertion does not change what other keys lead to. The new pair goes in front of the greater
ones or takes the place of the old one, and a look-up of another key passes it by. -/
theorem lookup_insert_of_ne {key other : String} (h : other ≠ key) (value : α)
    (table : List (String × α)) :
    (insert key value table).lookup other = table.lookup other := by
  induction table with
  | nil => simp [insert, lookup_cons_of_ne h]
  | cons first rest ih =>
    obtain ⟨k, v⟩ := first
    rw [insert]
    split
    · rw [lookup_cons_of_ne h]
    · split
      · rename_i heq
        subst heq
        rw [lookup_cons_of_ne h, lookup_cons_of_ne h]
      · by_cases hk : other = k
        · subst hk
          simp
        · rw [lookup_cons_of_ne hk, lookup_cons_of_ne hk, ih]

/-- A table made from a list has its keys in ascending order. -/
theorem ascending_ofList (pairs : List (String × α)) : Ascending (ofList pairs) := by
  have hfold : ∀ table : List (String × α), Ascending table →
      Ascending (pairs.foldl (fun table pair => insert pair.1 pair.2 table) table) := by
    induction pairs with
    | nil => exact fun _ h => h
    | cons pair pairs ih => exact fun _ h => ih _ (ascending_insert h)
  exact hfold [] trivial

/-- The last value of a key counts, as each insertion replaces the value that was there. The
induction is on the list, for any table to start with. -/
theorem lookup_ofList (pairs : List (String × α)) (key : String) :
    (ofList pairs).lookup key =
      (pairs.filter fun pair => pair.1 = key).getLast?.map (·.2) := by
  have hfold : ∀ table : List (String × α),
      (pairs.foldl (fun table pair => insert pair.1 pair.2 table) table).lookup key =
        ((pairs.filter fun pair => pair.1 = key).getLast?.map (·.2)).or (table.lookup key) := by
    induction pairs with
    | nil => intro table; simp
    | cons pair pairs ih =>
      intro table
      rw [List.foldl_cons, ih]
      by_cases hkey : pair.1 = key
      · subst hkey
        rw [lookup_insert_self, List.filter_cons_of_pos (by simp)]
        -- the pair counts if no later one has its key
        cases hlater : pairs.filter (fun other => other.1 = pair.1) with
        | nil => simp
        | cons first later => simp [List.getLast?_cons]
      · rw [lookup_insert_of_ne (Ne.symm hkey), List.filter_cons_of_neg (by simpa using hkey)]
  rw [ofList, hfold]
  simp

/-- A pair of the table is one of the list. The induction is on the list, for any table to
start with. -/
theorem mem_of_mem_ofList {pairs : List (String × α)} {pair : String × α}
    (h : pair ∈ ofList pairs) : pair ∈ pairs := by
  have hfold : ∀ pairs table : List (String × α),
      pair ∈ pairs.foldl (fun table pair => insert pair.1 pair.2 table) table →
        pair ∈ pairs ∨ pair ∈ table := by
    intro pairs
    induction pairs with
    | nil => exact fun _ hmem => Or.inr hmem
    | cons first pairs ih =>
      intro table hmem
      rcases ih _ hmem with hmem | hmem
      · exact Or.inl (List.mem_cons_of_mem _ hmem)
      · rcases mem_insert hmem with rfl | hmem
        · exact Or.inl List.mem_cons_self
        · exact Or.inr hmem
  rcases hfold pairs [] h with hmem | hmem
  · exact hmem
  · cases hmem

/-! ### Lists of keys -/

/-- In an ascending table any two keys are in order, not only neighbours. -/
theorem pairwise_keys {table : List (String × α)} (h : Ascending table) :
    (table.map (·.1)).Pairwise (· < ·) := by
  induction table with
  | nil => exact List.Pairwise.nil
  | cons first rest ih =>
    obtain ⟨hless, hrest⟩ := h
    rw [List.map_cons]
    refine List.Pairwise.cons ?_ (ih hrest)
    intro key hkey
    obtain ⟨pair, hpair, rfl⟩ := List.mem_map.1 hkey
    exact hless pair hpair

/-- A table made from a list has exactly the keys of the list. A key of the list has a last pair,
and that one is what the table holds. -/
theorem mem_keys_ofList {pairs : List (String × α)} {key : String} :
    key ∈ (ofList pairs).map (·.1) ↔ ∃ value, (key, value) ∈ pairs := by
  constructor
  · intro hkey
    obtain ⟨pair, hpair, rfl⟩ := List.mem_map.1 hkey
    exact ⟨pair.2, mem_of_mem_ofList hpair⟩
  · rintro ⟨value, hpair⟩
    -- some pair of the key is the last one
    have hmem : (key, value) ∈ pairs.filter fun pair => pair.1 = key := by simp [hpair]
    cases hlast : (pairs.filter fun pair => pair.1 = key).getLast? with
    | none =>
      rw [List.getLast?_eq_none_iff] at hlast
      rw [hlast] at hmem
      exact absurd hmem List.not_mem_nil
    | some last =>
      have hfound : (ofList pairs).lookup key = some last.2 := by
        rw [lookup_ofList, hlast]
        rfl
      exact List.mem_map.2 ⟨_, mem_of_lookup hfound, rfl⟩

/-! ### Removal -/

/-- Erasing a key keeps the order. -/
theorem ascending_erase {key : String} {table : List (String × α)} (h : Ascending table) :
    Ascending (erase key table) := by
  induction table with
  | nil => trivial
  | cons first rest ih =>
    obtain ⟨hless, hrest⟩ := h
    rw [erase, List.filter_cons]
    split
    · exact ⟨fun pair hmem => hless pair ((List.mem_filter.1 hmem).1), ih hrest⟩
    · exact ih hrest

/-- What was erased is gone. -/
@[simp]
theorem lookup_erase_self (key : String) (table : List (String × α)) :
    (erase key table).lookup key = none := by
  cases hfound : (erase key table).lookup key with
  | none => rfl
  | some value =>
    have hmem := mem_of_lookup hfound
    simp [erase] at hmem

/-- Everything else is still there. -/
theorem lookup_erase_of_ne {key other : String} (h : other ≠ key) (table : List (String × α)) :
    (erase key table).lookup other = table.lookup other := by
  induction table with
  | nil => rfl
  | cons first rest ih =>
    obtain ⟨k, v⟩ := first
    by_cases hk : k = key
    · subst hk
      rw [lookup_cons_of_ne h, ← ih]
      simp [erase]
    · have hcons : erase key ((k, v) :: rest) = (k, v) :: erase key rest := by simp [erase, hk]
      rw [hcons, List.lookup_cons, List.lookup_cons, ih]

end DesignTokens.Keyed

/-!
# Lists sorted by key

A table from texts to data is a list of pairs in which keys ascend by code point, so that two
tables with the same contents are the same list. `insert` and `insertIfNew` keep the order
(`ascending_insert`, `ascending_insertIfNew`).
-/

set_option autoImplicit false

namespace DesignTokens.Keyed

universe u

variable {α : Type u}

/-- Each key is less than all later ones. -/
def Ascending : List (String × α) → Prop
  | [] => True
  | first :: rest => (∀ pair ∈ rest, first.1 < pair.1) ∧ Ascending rest

/-- Adds a pair in its place, unless the key is there already. -/
def insertIfNew (key : String) (value : α) : List (String × α) → List (String × α)
  | [] => [(key, value)]
  | (k, v) :: rest =>
    if key < k then (key, value) :: (k, v) :: rest
    else if key = k then (k, v) :: rest
    else (k, v) :: insertIfNew key value rest

/-- Adds a pair in its place; a value that the key had before is replaced. -/
def insert (key : String) (value : α) : List (String × α) → List (String × α)
  | [] => [(key, value)]
  | (k, v) :: rest =>
    if key < k then (key, value) :: (k, v) :: rest
    else if key = k then (key, value) :: rest
    else (k, v) :: insert key value rest

/-- The table without a key. -/
def erase (key : String) (table : List (String × α)) : List (String × α) :=
  table.filter fun pair => pair.1 ≠ key

/-- The table of a list of pairs, in which the last value of a repeated key counts. -/
def ofList (pairs : List (String × α)) : List (String × α) :=
  pairs.foldl (fun table pair => insert pair.1 pair.2 table) []

/-- A pair of the longer table is the new one or an old one. Nothing is lost here: a key that is
there already leaves the table as it is. -/
theorem mem_insertIfNew {key : String} {value : α} {table : List (String × α)} {pair : String × α}
    (h : pair ∈ insertIfNew key value table) : pair = (key, value) ∨ pair ∈ table := by
  induction table with
  | nil => simpa [insertIfNew] using h
  | cons first rest ih =>
    simp only [insertIfNew] at h
    split at h
    · simpa using h
    · split at h
      · exact Or.inr h
      · rcases List.mem_cons.1 h with h | h
        · exact Or.inr (by simp [h])
        · rcases ih h with h | h
          · exact Or.inl h
          · exact Or.inr (by simp [h])

/-- A pair of the new table is the new one or an old one. The old pair of the key is replaced, so
the converse only holds for pairs of other keys. -/
theorem mem_insert {key : String} {value : α} {table : List (String × α)} {pair : String × α}
    (h : pair ∈ insert key value table) : pair = (key, value) ∨ pair ∈ table := by
  induction table with
  | nil => simpa [insert] using h
  | cons first rest ih =>
    simp only [insert] at h
    split at h
    · simpa using h
    · split at h
      · rcases List.mem_cons.1 h with h | h
        · exact Or.inl h
        · exact Or.inr (by simp [h])
      · rcases List.mem_cons.1 h with h | h
        · exact Or.inr (by simp [h])
        · rcases ih h with h | h
          · exact Or.inl h
          · exact Or.inr (by simp [h])

/-- Two different keys are in one order or the other. -/
theorem lt_of_not_lt_of_ne {a b : String} (hlt : ¬ a < b) (hne : ¬ a = b) : b < a :=
  Std.lt_of_le_of_ne (String.not_lt.1 hlt) fun h => hne h.symm

/-- Adding a new key keeps the order. The pair goes in front of the first greater key, and what
stands behind that is greater still. -/
theorem ascending_insertIfNew {key : String} {value : α} {table : List (String × α)}
    (h : Ascending table) : Ascending (insertIfNew key value table) := by
  induction table with
  | nil => simp [insertIfNew, Ascending]
  | cons first rest ih =>
    obtain ⟨h₁, h₂⟩ := h
    simp only [insertIfNew]
    split
    · rename_i hlt
      refine ⟨?_, h₁, h₂⟩
      intro pair hmem
      rcases List.mem_cons.1 hmem with rfl | hmem
      · exact hlt
      · exact String.lt_trans hlt (h₁ _ hmem)
    · split
      · exact ⟨h₁, h₂⟩
      · rename_i hlt hne
        refine ⟨?_, ih h₂⟩
        intro pair hmem
        rcases mem_insertIfNew hmem with rfl | hmem
        · exact lt_of_not_lt_of_ne hlt hne
        · exact h₁ _ hmem

/-- An insertion that may replace keeps the order as well. Where it replaces, the keys stay the
same. -/
theorem ascending_insert {key : String} {value : α} {table : List (String × α)}
    (h : Ascending table) : Ascending (insert key value table) := by
  induction table with
  | nil => simp [insert, Ascending]
  | cons first rest ih =>
    obtain ⟨h₁, h₂⟩ := h
    simp only [insert]
    split
    · rename_i hlt
      refine ⟨?_, h₁, h₂⟩
      intro pair hmem
      rcases List.mem_cons.1 hmem with rfl | hmem
      · exact hlt
      · exact String.lt_trans hlt (h₁ _ hmem)
    · split
      · rename_i heq
        exact ⟨fun pair hmem => by simpa [heq] using h₁ pair hmem, h₂⟩
      · rename_i hlt hne
        refine ⟨?_, ih h₂⟩
        intro pair hmem
        rcases mem_insert hmem with rfl | hmem
        · exact lt_of_not_lt_of_ne hlt hne
        · exact h₁ _ hmem

end DesignTokens.Keyed

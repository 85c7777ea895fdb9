import DesignTokens.Generate.Basic

/-!
# Reading an entry

When the data under a key that must be there and a list under a key are read, and the problem
otherwise.
-/

set_option autoImplicit false

namespace DesignTokens

section
variable {α : Type} {key : Key} {shape : Shape α} {mapping : Option Value}

/-- A key that is required has the data that it would have as an optional one. -/
theorem Key.required_eq_ok_iff {data : α} :
    key.required shape mapping = .ok data ↔ key.optional? shape mapping = some data := by
  rw [required]
  cases key.optional? shape mapping <;> simp

/-- It fails exactly where the optional one has nothing, with the name of the key and its
guidance. -/
theorem Key.required_eq_error_iff {problem : Problem} :
    key.required shape mapping = .error problem ↔
      key.optional? shape mapping = none ∧ problem = .missingRequiredKey key.name key.guidance := by
  rw [required]
  cases key.optional? shape mapping <;> simp [eq_comm]

end

section
variable {key : String} {entry : Value}

/-- A list is found under a key exactly if there is one. -/
theorem listUnder_eq_ok_iff {items : List Value} :
    listUnder key entry = .ok items ↔ entry.get? key = some (.array items) := by
  unfold listUnder
  split
  · rename_i found hfound
    simp [hfound]
  · rename_i hnone
    exact ⟨nofun, fun h => absurd h (hnone items)⟩

/-- Anything else under the key is a problem with that key. -/
theorem listUnder_eq_error_iff {problem : Problem} :
    listUnder key entry = .error problem ↔
      (∀ items, entry.get? key ≠ some (.array items)) ∧ problem = .invalidConfigEntry key := by
  unfold listUnder
  split
  · rename_i found hfound
    simp [hfound]
  · rename_i hnone
    constructor
    · intro h
      cases h
      exact ⟨hnone, rfl⟩
    · exact fun h => by rw [h.2]

end

end DesignTokens

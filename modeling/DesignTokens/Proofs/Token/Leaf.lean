import DesignTokens.Token.Entry

/-!
# What makes a leaf

`Entry.Describes` states the rules for the members of a leaf one by one. `decode?_eq_some_iff`: an
object reads as an entry exactly if its members describe the entry, and so there is at most one
(`Describes.unique`).
-/

set_option autoImplicit false

namespace DesignTokens.Entry

/-- The members of an object describe a leaf: the type is a string, the value is there, and the
description is absent, null or a string. Nothing is said about further members. -/
structure Describes (members : Members) (entry : Entry) : Prop where
  kind : members.lookup "type" = some (.string entry.kind)
  value : members.lookup "value" = some entry.value
  description : members.lookup "description" = entry.description.map .string ∨
    members.lookup "description" = some .null ∧ entry.description = none

/-- An object reads as an entry exactly if its members describe the entry: a kind that is a text, a
value of any form, and a description that is a text, null or missing. -/
theorem decode?_eq_some_iff {members : Members} {entry : Entry} :
    decode? (.object members) = some entry ↔ Describes members entry := by
  constructor
  · intro h
    simp only [decode?, Value.members?, Option.bind_eq_bind, Option.bind_some,
      Option.bind_eq_some_iff] at h
    obtain ⟨kindValue, hk, kind, hkind, value, hv, h⟩ := h
    -- a kind that is no text makes no leaf
    have hkind : kindValue = .string kind := by
      cases kindValue <;> simp_all [Value.string?]
    subst hkind
    split at h
    · rename_i hd
      cases h
      exact ⟨hk, hv, Or.inl hd⟩
    · rename_i hd
      cases h
      exact ⟨hk, hv, Or.inr ⟨hd, rfl⟩⟩
    · rename_i description hd
      cases h
      exact ⟨hk, hv, Or.inl hd⟩
    · contradiction
  · rintro ⟨hk, hv, hd⟩
    obtain ⟨kind, value, description⟩ := entry
    simp only at hk hv hd
    rcases hd with hd | ⟨hd, rfl⟩
    · cases description <;> simp only [Option.map_none, Option.map_some] at hd <;>
        simp [decode?, Value.members?, Value.string?, hk, hv, hd]
    · simp [decode?, Value.members?, Value.string?, hk, hv, hd]

/-- Members describe at most one leaf, since that is what reading them gives. -/
theorem Describes.unique {members : Members} {a b : Entry} (ha : Describes members a)
    (hb : Describes members b) : a = b := by
  have h := (decode?_eq_some_iff.mpr ha).symm.trans (decode?_eq_some_iff.mpr hb)
  exact Option.some.inj h

/-- An object does not read as an entry exactly if its members describe none. -/
theorem decode?_eq_none_iff {members : Members} :
    decode? (.object members) = none ↔ ∀ entry, ¬ Describes members entry := by
  rw [Option.eq_none_iff_forall_ne_some]
  exact forall_congr' fun entry => not_congr decode?_eq_some_iff

end DesignTokens.Entry

import DesignTokens.Text.Blank
import DesignTokens.Text.Split
import Mathlib.Data.List.Basic

/-!
# Replacing and trimming

A text is replaced piece by piece wherever a character stands that the replaced text does not have
(`replace_append_cons`), and so it is by several replacements one after the other
(`replaceAll_append_cons`). At the end of a text nothing is trimmed in front of a character that is
not blank (`trimRight_append_cons`).
-/

set_option autoImplicit false

namespace DesignTokens.Text

/-! ### One replacement -/

/-- A start does not reach beyond a character that it does not have. -/
theorem dropStart?_append_cons {start : List Char} {c : Char} (hc : c ∉ start)
    (front back : List Char) :
    dropStart? start (front ++ c :: back) = (dropStart? start front).map (· ++ c :: back) := by
  induction start generalizing front with
  | nil => rfl
  | cons a start ih =>
    obtain ⟨hca, hc⟩ := not_or.1 (List.mem_cons.not.1 hc)
    cases front with
    | nil => simp [dropStart?, Ne.symm hca]
    | cons b front =>
      simp only [List.cons_append, dropStart?]
      split
      · exact ih hc front
      · rfl

/-- A text that starts with another is at least as long. -/
theorem length_le_of_dropStart? {start text : List Char} (h : (dropStart? start text).isSome) :
    start.length ≤ text.length := by
  obtain ⟨rest, hrest⟩ := Option.isSome_iff_exists.1 h
  rw [dropStart?_eq_some_iff.1 hrest, List.length_append]
  exact Nat.le_add_right _ _

/-- The walk passes a character that the replaced text does not have and starts anew behind it. -/
theorem replaceAfter_append_cons {old : List Char} {c : Char} (hold : old ≠ []) (hc : c ∉ old)
    (new : List Char) {skip : Nat} {front : List Char} (hskip : skip ≤ front.length)
    (back : List Char) :
    replaceAfter old new skip (front ++ c :: back) =
      replaceAfter old new skip front ++ c :: replaceAfter old new 0 back := by
  have hempty : old.isEmpty = false := by simpa using hold
  induction front generalizing skip with
  | nil =>
    obtain rfl : skip = 0 := Nat.le_zero.1 hskip
    have hnone : dropStart? old (c :: back) = none := by
      have h := dropStart?_append_cons hc [] back
      cases old with
      | nil => exact absurd rfl hold
      | cons a old => simpa [dropStart?] using h
    simp [replaceAfter, hempty, hnone]
  | cons d front ih =>
    cases skip with
    -- inside of what was replaced, nothing is looked for
    | succ skip =>
      simp only [List.cons_append, replaceAfter]
      exact ih (Nat.le_of_succ_le_succ hskip)
    | zero =>
      have hstart := dropStart?_append_cons hc (d :: front) back
      rw [List.cons_append] at hstart
      simp only [List.cons_append, replaceAfter, hempty, hstart, Option.isSome_map,
        Bool.false_eq_true, if_false]
      split
      · -- the replaced text ends in front of the character
        rename_i hsome
        have hlength := length_le_of_dropStart? hsome
        rw [List.length_cons] at hlength
        rw [ih (by omega), List.append_assoc]
      · rw [ih (Nat.zero_le _), List.cons_append]

/-- A text is replaced in front of such a character and behind it. No occurrence of the pattern can
lie across a character that is not in it. -/
theorem replace_append_cons {old : List Char} {c : Char} (hold : old ≠ []) (hc : c ∉ old)
    (new front back : List Char) :
    replace old new (front ++ c :: back) = replace old new front ++ c :: replace old new back :=
  replaceAfter_append_cons hold hc new (Nat.zero_le _) back

/-- A text without a character of the replaced text stays as it is. -/
theorem replace_of_not_mem {old text : List Char} {c : Char} (hc : c ∈ old) (htext : c ∉ text)
    (new : List Char) : replace old new text = text := by
  have hold : old ≠ [] := List.ne_nil_of_mem hc
  have hempty : old.isEmpty = false := by simpa using hold
  unfold replace
  induction text with
  | nil => simp [replaceAfter, hempty]
  | cons d text ih =>
    have hnone : dropStart? old (d :: text) = none := by
      rw [Option.eq_none_iff_forall_ne_some]
      intro rest hrest
      rw [dropStart?_eq_some_iff.1 hrest] at htext
      exact htext (List.mem_append_left _ hc)
    simp [replaceAfter, hempty, hnone, ih fun h => htext (List.mem_cons_of_mem d h)]

/-- A replacement brings in characters of the new text only. -/
theorem mem_of_mem_replaceAfter {old new text : List Char} {c : Char} {skip : Nat}
    (h : c ∈ replaceAfter old new skip text) : c ∈ text ∨ c ∈ new := by
  induction text generalizing skip with
  | nil =>
    simp only [replaceAfter] at h
    split at h
    · exact .inr h
    · cases h
  | cons d text ih =>
    have hlater {skip : Nat} (h : c ∈ replaceAfter old new skip text) : c ∈ d :: text ∨ c ∈ new :=
      (ih h).imp_left (List.mem_cons_of_mem d)
    have hkept (h : c ∈ d :: replaceAfter old new 0 text) : c ∈ d :: text ∨ c ∈ new := by
      rcases List.mem_cons.1 h with rfl | h
      · exact .inl List.mem_cons_self
      · exact hlater h
    cases skip with
    | succ skip => exact hlater h
    | zero =>
      simp only [replaceAfter] at h
      split at h
      · exact (List.mem_append.1 h).elim .inr hkept
      · split at h
        · exact (List.mem_append.1 h).elim .inr hlater
        · exact hkept h

/-- Each character of the result comes from the text or from what was put in. -/
theorem mem_of_mem_replace {old new text : List Char} {c : Char} (h : c ∈ replace old new text) :
    c ∈ text ∨ c ∈ new :=
  mem_of_mem_replaceAfter h

/-! ### Several replacements -/

section
variable {pairs : List (List Char × List Char)} {c : Char}

/-- A character that no pattern has stands between replacements, so the parts on its two sides are
replaced by themselves. -/
theorem replaceAll_append_cons (h : ∀ pair ∈ pairs, pair.1 ≠ [] ∧ c ∉ pair.1)
    (front back : List Char) :
    replaceAll pairs (front ++ c :: back) =
      replaceAll pairs front ++ c :: replaceAll pairs back := by
  induction pairs generalizing front back with
  | nil => rfl
  | cons pair pairs ih =>
    obtain ⟨⟨hold, hc⟩, hpairs⟩ := List.forall_mem_cons.1 h
    simp only [replaceAll, List.foldl_cons, replace_append_cons hold hc]
    exact ih hpairs _ _

/-- Nothing is replaced in a text without a character that all patterns have. -/
theorem replaceAll_of_not_mem {text : List Char} (h : ∀ pair ∈ pairs, c ∈ pair.1)
    (htext : c ∉ text) : replaceAll pairs text = text := by
  induction pairs with
  | nil => rfl
  | cons pair pairs ih =>
    obtain ⟨hc, hpairs⟩ := List.forall_mem_cons.1 h
    simp only [replaceAll, List.foldl_cons, replace_of_not_mem hc htext]
    exact ih hpairs

/-- A character that is in no new text is not brought in. -/
theorem not_mem_replaceAll {text : List Char} (h : ∀ pair ∈ pairs, c ∉ pair.2)
    (htext : c ∉ text) : c ∉ replaceAll pairs text := by
  induction pairs generalizing text with
  | nil => exact htext
  | cons pair pairs ih =>
    obtain ⟨hc, hpairs⟩ := List.forall_mem_cons.1 h
    exact ih hpairs fun hmem => (mem_of_mem_replace hmem).elim htext hc

end

/-! ### Trimming -/

/-- Trimming brings in no character. -/
theorem not_mem_trim {text : List Char} {c : Char} (h : c ∉ text) : c ∉ trim text := by
  intro hmem
  rw [trim, trimRight, List.mem_reverse] at hmem
  have hleft := List.mem_reverse.1 ((List.dropWhile_sublist _).mem hmem)
  exact h ((List.dropWhile_sublist _).mem hleft)

/-- Before a character that is not blank nothing is trimmed. -/
theorem trimLeft_cons {c : Char} (hc : isBlank c = false) (text : List Char) :
    trimLeft (c :: text) = c :: text := by
  simp [trimLeft, hc]

/-- Only what stands behind a character that is not blank is trimmed at the end, so the front of a
text is safe. -/
theorem trimRight_append_cons {c : Char} (hc : isBlank c = false) (front back : List Char) :
    trimRight (front ++ c :: back) = front ++ c :: trimRight back := by
  simp only [trimRight, List.reverse_append, List.reverse_cons, List.append_assoc,
    List.dropWhile_append]
  split
  · rename_i hblank
    rw [List.isEmpty_iff.1 hblank]
    simp [hc]
  · simp

end DesignTokens.Text

import DesignTokens.Naming

/-!
# Mapped characters stay

No image in a case table begins with a character that is mapped again (`Settled`). For ranges this
is a matter of limits and of a parity (`CaseRange.apart`), which is decided for every range of
images and every range of the table. A first character is therefore lowercased once and for all,
whatever is put behind it (`lowerFirst_append`), and the same is true of uppercase.

No image holds a blank or a character that names are cut at, either (`Avoids`): mapped texts have
only those of them that were there before.
-/

set_option autoImplicit false

namespace DesignTokens.Text

/-! ### Ranges -/

namespace CaseRange

/-- The code points that a range maps to. -/
def image (range : CaseRange) : CaseRange :=
  ⟨(range.first + range.shift).toNat, (range.last + range.shift).toNat, range.step, 0⟩

/-- No code point lies in both ranges: one begins behind the other, or falls into its gaps. The
comparisons are those that the kernel computes at once. -/
def apart (range other : CaseRange) : Bool :=
  range.last.blt other.first || other.last.blt range.first ||
    (other.step == 2 && (range.step == 2 || range.first == range.last) &&
      (range.first + other.first) % 2 == 1)

/-- A range covers the codes between its ends that its step meets. -/
theorem covers_iff {range : CaseRange} {code : Nat} :
    range.covers code = true ↔
      range.first ≤ code ∧ code ≤ range.last ∧ (code - range.first) % range.step = 0 := by
  simp [covers, and_assoc]

/-- What a range covers is covered by its image after the shift. -/
theorem covers_image {range : CaseRange} (hlimit : 0 ≤ range.first + range.shift) {code : Nat}
    (h : range.covers code = true) : range.image.covers (code + range.shift).toNat = true := by
  obtain ⟨hfirst, hlast, hgap⟩ := covers_iff.1 h
  have hdistance : (code + range.shift).toNat - (range.first + range.shift).toNat =
      code - range.first := by
    omega
  refine covers_iff.2 ⟨?_, ?_, ?_⟩
  · show (range.first + range.shift).toNat ≤ _
    omega
  · show _ ≤ (range.last + range.shift).toNat
    omega
  · show (_ - (range.first + range.shift).toNat) % range.step = 0
    rw [hdistance, hgap]

/-- Two ranges that are apart cover no code together. -/
theorem covers_eq_false_of_apart {range other : CaseRange} (h : range.apart other = true)
    {code : Nat} (hcode : range.covers code = true) : other.covers code = false := by
  rw [Bool.eq_false_iff, ne_eq, covers_iff]
  rintro ⟨hfirst, hlast, hgap⟩
  obtain ⟨hfirst', hlast', hgap'⟩ := covers_iff.1 hcode
  simp only [apart, Bool.or_eq_true, Bool.and_eq_true, Nat.blt_eq, beq_iff_eq] at h
  rcases h with (h | h) | ⟨⟨hstep, hstep'⟩, hparity⟩
  · omega
  · omega
  · rw [hstep] at hgap
    rcases hstep' with hstep' | hsingle
    · rw [hstep'] at hgap'
      omega
    · omega

end CaseRange

/-! ### Tables -/

/-- The table maps a code point to itself. -/
def Unmapped (specials : List (Nat × List Nat)) (ranges : List CaseRange) (code : Nat) : Prop :=
  specials.lookup code = none ∧ ∀ range ∈ ranges, range.covers code = false

instance (specials : List (Nat × List Nat)) (ranges : List CaseRange) (code : Nat) :
    Decidable (Unmapped specials ranges code) :=
  inferInstanceAs (Decidable (_ ∧ _))

/-- No image begins with a character that is mapped. -/
structure Settled (specials : List (Nat × List Nat)) (ranges : List CaseRange) : Prop where
  limit : ∀ range ∈ ranges, 0 ≤ range.first + range.shift
  range : (ranges.all fun range => ranges.all range.image.apart) = true
  special : ∀ range ∈ ranges, ∀ special ∈ specials,
    range.image.apart ⟨special.1, special.1, 2, 0⟩ = true
  image : ∀ special ∈ specials, ∃ code ∈ special.2.head?, Unmapped specials ranges code
  zero : Unmapped specials ranges 0

section
variable {specials : List (Nat × List Nat)} {ranges : List CaseRange}

/-- A character that no table mentions is mapped to itself. -/
theorem mapCase_of_unmapped {c : Char} (h : Unmapped specials ranges c.toNat) :
    mapCase specials ranges c = [c] := by
  have hnone : ranges.find? (·.covers c.toNat) = none :=
    List.find?_eq_none.2 fun range hmem => by simp [h.2 range hmem]
  rw [mapCase, h.1]
  simp only [hnone]

/-- What is no code point gives the character zero. -/
theorem toNat_ofNat_cases (code : Nat) :
    (Char.ofNat code).toNat = code ∨ (Char.ofNat code).toNat = 0 := by
  by_cases hvalid : code.isValidChar
  · left
    rw [Char.ofNat, dif_pos hvalid]
    rfl
  · right
    rw [Char.ofNat, dif_neg hvalid]
    rfl

/-- In settled tables a code that is not mapped stands for a character that is mapped to itself. -/
theorem Settled.mapCase_ofNat (h : Settled specials ranges) {code : Nat}
    (hcode : Unmapped specials ranges code) :
    mapCase specials ranges (Char.ofNat code) = [Char.ofNat code] := by
  apply mapCase_of_unmapped
  rcases toNat_ofNat_cases code with heq | heq
  · rwa [heq]
  · rw [heq]
    exact h.zero

/-- What a range maps to is not mapped. -/
theorem Settled.unmapped_shift (h : Settled specials ranges) {range : CaseRange}
    (hmem : range ∈ ranges) {code : Nat} (hcode : range.covers code = true) :
    Unmapped specials ranges (code + range.shift).toNat := by
  have himage := CaseRange.covers_image (h.limit range hmem) hcode
  constructor
  · rw [Option.eq_none_iff_forall_ne_some]
    intro characters hcharacters
    obtain ⟨before, after, htable, -⟩ := List.lookup_eq_some_iff.1 hcharacters
    have hapart := h.special range hmem ((code + range.shift).toNat, characters) (by simp [htable])
    have hfalse := CaseRange.covers_eq_false_of_apart hapart himage
    simp [CaseRange.covers] at hfalse
  · intro other hother
    have hapart := List.all_eq_true.1 (List.all_eq_true.1 h.range range hmem) other hother
    exact CaseRange.covers_eq_false_of_apart hapart himage

/-- Every image begins with a character that is mapped to itself, if the tables have that property,
which is checked once by evaluation. -/
theorem Settled.mapCase_eq_cons (h : Settled specials ranges) (c : Char) :
    ∃ first rest, mapCase specials ranges c = first :: rest ∧
      mapCase specials ranges first = [first] := by
  rw [mapCase]
  split
  · rename_i image himage
    obtain ⟨before, after, htable, -⟩ := List.lookup_eq_some_iff.1 himage
    obtain ⟨code, hcode, hunmapped⟩ := h.image (c.toNat, image) (by simp [htable])
    obtain ⟨rest, rfl⟩ := List.head?_eq_some_iff.1 hcode
    exact ⟨_, _, rfl, h.mapCase_ofNat hunmapped⟩
  · rename_i hspecial
    split
    · rename_i range hrange
      have hcovers := List.find?_some hrange
      have hunmapped := h.unmapped_shift (List.mem_of_find?_eq_some hrange) hcovers
      exact ⟨_, _, rfl, h.mapCase_ofNat hunmapped⟩
    · rename_i hnone
      refine ⟨c, [], rfl, mapCase_of_unmapped ⟨hspecial, fun range hmem => ?_⟩⟩
      simpa using List.find?_eq_none.1 hnone range hmem

end

/-! ### Reserved characters -/

/-- No image holds a character of some ranges. -/
structure Avoids (specials : List (Nat × List Nat)) (ranges : List CaseRange)
    (reserved : List (Nat × Nat)) : Prop where
  limit : ∀ range ∈ ranges, 0 ≤ range.first + range.shift
  range : (ranges.all fun range => reserved.all fun limits =>
    range.image.apart ⟨limits.1, limits.2, 1, 0⟩) = true
  special : ∀ special ∈ specials, ∀ code ∈ special.2, inRanges reserved code = false
  zero : inRanges reserved 0 = false

section
variable {specials : List (Nat × List Nat)} {ranges : List CaseRange} {reserved : List (Nat × Nat)}

/-- Tables that avoid the reserved codes do so for the character of a code as well. -/
theorem Avoids.ofNat (h : Avoids specials ranges reserved) {code : Nat}
    (hcode : inRanges reserved code = false) :
    inRanges reserved (Char.ofNat code).toNat = false := by
  rcases toNat_ofNat_cases code with heq | heq
  · rwa [heq]
  · rw [heq]
    exact h.zero

/-- No range of such tables shifts a code to a reserved one. -/
theorem Avoids.shift (h : Avoids specials ranges reserved) {range : CaseRange}
    (hmem : range ∈ ranges) {code : Nat} (hcode : range.covers code = true) :
    inRanges reserved (code + range.shift).toNat = false := by
  have himage := CaseRange.covers_image (h.limit range hmem) hcode
  rw [inRanges, List.any_eq_false]
  intro limits hlimits
  have hapart := List.all_eq_true.1 (List.all_eq_true.1 h.range range hmem) limits hlimits
  have hfalse := CaseRange.covers_eq_false_of_apart hapart himage
  simpa [CaseRange.covers, Nat.mod_one] using hfalse

/-- A reserved character in an image is the character that was mapped. So no change of case
brings in a separator or a blank. -/
theorem Avoids.eq_of_mem_mapCase (h : Avoids specials ranges reserved) {c d : Char}
    (hreserved : inRanges reserved d.toNat = true) (hmem : d ∈ mapCase specials ranges c) :
    d = c := by
  rw [mapCase] at hmem
  split at hmem
  · rename_i image himage
    obtain ⟨before, after, htable, -⟩ := List.lookup_eq_some_iff.1 himage
    obtain ⟨code, hcode, rfl⟩ := List.mem_map.1 hmem
    have hfree := h.ofNat (h.special (c.toNat, image) (by simp [htable]) code hcode)
    exact absurd (hreserved.symm.trans hfree) (by decide)
  · split at hmem
    · rename_i range hrange
      obtain rfl := List.mem_singleton.1 hmem
      have hcovers := List.find?_some hrange
      have hfree := h.ofNat (h.shift (List.mem_of_find?_eq_some hrange) hcovers)
      exact absurd (hreserved.symm.trans hfree) (by decide)
    · exact List.mem_singleton.1 hmem

end

/-! ### The tables of Unicode -/

/-- A blank, or a character that names are cut at. -/
def Reserved (c : Char) : Prop :=
  isBlank c = true ∨ c ∈ Naming.separators

/-- The code points of the reserved characters. -/
def reservedRanges : List (Nat × Nat) :=
  blankRanges ++ Naming.separators.map fun c => (c.toNat, c.toNat)

/-- A reserved character has a reserved code. -/
theorem Reserved.inRanges {c : Char} (h : Reserved c) : inRanges reservedRanges c.toNat = true := by
  rw [Text.inRanges, reservedRanges, List.any_append, Bool.or_eq_true]
  rcases h with hblank | hseparator
  · exact .inl hblank
  · exact .inr (List.any_eq_true.2 ⟨(c.toNat, c.toNat), List.mem_map_of_mem hseparator, by simp⟩)

/-- All that is decided of the tables, in one go. -/
theorem tables_decided :
    (Settled uppercaseSpecials uppercaseRanges ∧ Settled lowercaseSpecials lowercaseRanges) ∧
      Avoids uppercaseSpecials uppercaseRanges reservedRanges ∧
        Avoids lowercaseSpecials lowercaseRanges reservedRanges := by
  refine ⟨⟨⟨?_, ?_, ?_, ?_, ?_⟩, ⟨?_, ?_, ?_, ?_, ?_⟩⟩, ⟨?_, ?_, ?_, ?_⟩, ⟨?_, ?_, ?_, ?_⟩⟩
  all_goals decide +kernel

/-- The tables for upper case are settled: what they map to is not mapped again. -/
theorem settled_uppercase : Settled uppercaseSpecials uppercaseRanges :=
  tables_decided.1.1

/-- So are those for lower case. -/
theorem settled_lowercase : Settled lowercaseSpecials lowercaseRanges :=
  tables_decided.1.2

/-- Upper case maps no character to a reserved one: it makes no blanks and no separators. -/
theorem avoids_uppercase : Avoids uppercaseSpecials uppercaseRanges reservedRanges :=
  tables_decided.2.1

/-- Lower case maps no character to a reserved one either. -/
theorem avoids_lowercase : Avoids lowercaseSpecials lowercaseRanges reservedRanges :=
  tables_decided.2.2

/-! ### Texts -/

/-- A first character that was lowercased is not changed again. Its lower case form may have
several characters, and the first of them is in lower case already, which was checked for the whole
table. -/
theorem lowerFirst_append (text more : List Char) :
    lowerFirst (lowerFirst text ++ more) = lowerFirst (text ++ more) := by
  cases text with
  | nil => rfl
  | cons c rest =>
    obtain ⟨first, behind, himage, hfirst⟩ := settled_lowercase.mapCase_eq_cons c
    have hc : lowerChar c = first :: behind := himage
    have hstays : lowerChar first = [first] := hfirst
    simp [lowerFirst, hc, hstays]

/-- The upper case of a character begins with one that is in upper case already. -/
theorem upperChar_eq_cons (c : Char) :
    ∃ first rest, upperChar c = first :: rest ∧ upperChar first = [first] :=
  settled_uppercase.mapCase_eq_cons c

/-- A first character that was capitalized is not changed again. -/
theorem upperFirst_append (text more : List Char) :
    upperFirst (upperFirst text ++ more) = upperFirst (text ++ more) := by
  cases text with
  | nil => rfl
  | cons c rest =>
    obtain ⟨first, behind, hc, hfirst⟩ := upperChar_eq_cons c
    simp [upperFirst, hc, hfirst]

/-- Putting the first letter in upper case twice is the same as doing it once. -/
theorem upperFirst_upperFirst (text : List Char) :
    upperFirst (upperFirst text) = upperFirst text := by
  simpa using upperFirst_append text []

/-- A reserved character that is not in a text does not come into it with an upper first letter. -/
theorem not_mem_upperFirst {c : Char} (hc : Reserved c) {text : List Char} (h : c ∉ text) :
    c ∉ upperFirst text := by
  cases text with
  | nil => exact h
  | cons first rest =>
    intro hmem
    rcases List.mem_append.1 hmem with hupper | hrest
    · obtain rfl := avoids_uppercase.eq_of_mem_mapCase hc.inRanges hupper
      exact h List.mem_cons_self
    · exact h (List.mem_cons_of_mem _ hrest)

/-- A reserved character does not come in with a lower first letter either. -/
theorem not_mem_lowerFirst {c : Char} (hc : Reserved c) {text : List Char} (h : c ∉ text) :
    c ∉ lowerFirst text := by
  cases text with
  | nil => exact h
  | cons first rest =>
    intro hmem
    rcases List.mem_append.1 hmem with hlower | hrest
    · obtain rfl := avoids_lowercase.eq_of_mem_mapCase hc.inRanges hlower
      exact h List.mem_cons_self
    · exact h (List.mem_cons_of_mem _ hrest)

end DesignTokens.Text

import DesignTokens.Proofs.Value.Encode

/-!
# JSON texts with one member a line

A template puts members and items on lines of their own and a key as it stands between quotes. Here
is what such a text says, part by part, for all that may follow: a line with its key
(`readsMembers_line_iff`), a text between quotes (`reads_raw_iff`), commas, and brackets. A key or a
text in it may be anything, so each part comes with the condition that it is plain.
-/

set_option autoImplicit false

namespace DesignTokens.Json

open DesignTokens.Value

variable {value : Value} {items : List Value} {members : Members} {first : Bool}

/-! ### Layout -/

/-- A text between quotes, as it stands. -/
def raw (s : String) (text : List Char) : List Char :=
  '"' :: (s.toList ++ '"' :: text)

/-- A line with a key and what follows the colon. -/
def line (depth : Nat) (key : String) (text : List Char) : List Char :=
  lineBreak depth ++ raw key (' ' :: ':' :: ' ' :: text)

/-- A line break with its indentation is skipped as a whole. -/
theorem skipSpace_lineBreak (depth : Nat) (text : List Char) :
    skipSpace (lineBreak depth ++ text) = skipSpace text := by
  rw [skipSpace, List.dropWhile_append_of_pos]
  · rfl
  · rw [lineBreak, List.forall_mem_cons]
    refine ⟨rfl, ?_⟩
    intro c hc
    rw [List.eq_of_mem_replicate hc]
    rfl

/-- Only what follows a space counts. -/
theorem reads_congr {text text' rest : List Char} (h : skipSpace text = skipSpace text') :
    Reads value text rest ↔ Reads value text' rest := by
  cases value with
  | bool b => cases b <;> simp only [Reads, h]
  | _ => simp only [Reads, h]

/-! ### What the parts say -/

section
variable (depth : Nat) {text rest : List Char}

/-- A text between quotes that was not escaped reads back as itself exactly if it needed no escape.
Otherwise it may end early, or a reader may refuse it. -/
theorem reads_raw_iff {s : String} :
    Reads (.string s) (raw s text) rest ↔ Plain s ∧ rest = text := by
  rw [← readString_raw_iff, Reads]
  constructor
  · rintro ⟨quoted, hquoted, hstring⟩
    cases hquoted
    exact hstring
  · exact fun hstring => ⟨_, rfl, hstring⟩

/-- A key that stands between quotes is read as itself exactly if it is plain. -/
theorem readsKey_raw_iff {key : String} {valued : List Char} :
    ReadsKey key (lineBreak depth ++ raw key (' ' :: ':' :: text)) valued ↔
      Plain key ∧ valued = text := by
  rw [ReadsKey, skipSpace_lineBreak]
  constructor
  · rintro ⟨quoted, colon, hquoted, hkey, hcolon⟩
    cases hquoted
    obtain ⟨hplain, rfl⟩ := readString_raw_iff.1 hkey
    exact ⟨hplain, (List.cons.inj hcolon).2.symm⟩
  · rintro ⟨hplain, rfl⟩
    exact ⟨_, _, rfl, readString_raw_iff.2 ⟨hplain, rfl⟩, rfl⟩

/-- A line is a member if its key is plain. The value may take several lines, so what it leaves
is open here. -/
theorem readsMembers_line_iff {key : String} :
    ReadsMembers true ((key, value) :: members) (line depth key text) rest ↔
      Plain key ∧ ∃ between, Reads value text between ∧
        ReadsMembers false members between rest := by
  have hspace {between : List Char} :
      Reads value (' ' :: text) between ↔ Reads value text between :=
    reads_congr rfl
  rw [ReadsMembers, line]
  constructor
  · rintro ⟨body, valued, between, rfl, hkey, hvalue, hmembers⟩
    obtain ⟨hplain, rfl⟩ := (readsKey_raw_iff depth).1 hkey
    exact ⟨hplain, between, hspace.1 hvalue, hmembers⟩
  · rintro ⟨hplain, between, hvalue, hmembers⟩
    exact ⟨_, _, between, rfl, (readsKey_raw_iff depth).2 ⟨hplain, rfl⟩, hspace.2 hvalue, hmembers⟩

/-- Behind a comma the next member is read as the first one is. -/
theorem readsMembers_comma_iff {member : String × Value} :
    ReadsMembers false (member :: members) (',' :: text) rest ↔
      ReadsMembers true (member :: members) text rest := by
  rw [ReadsMembers, ReadsMembers]
  constructor
  · rintro ⟨body, valued, between, hcomma, hread⟩
    cases hcomma
    exact ⟨_, valued, between, rfl, hread⟩
  · rintro ⟨body, valued, between, rfl, hread⟩
    exact ⟨_, valued, between, rfl, hread⟩

/-- A closing brace on its own line ends the members. -/
theorem readsMembers_close_iff :
    ReadsMembers first [] (lineBreak depth ++ '}' :: text) rest ↔ rest = text := by
  rw [ReadsMembers, skipSpace_lineBreak]
  exact ⟨fun h => (List.tail_eq_of_cons_eq h).symm, fun h => h ▸ rfl⟩

/-- An object is an opening brace and then its members. -/
theorem reads_object_iff : Reads (.object members) ('{' :: text) rest ↔
    ReadsMembers true members text rest := by
  rw [Reads]
  constructor
  · rintro ⟨body, hbody, hmembers⟩
    cases hbody
    exact hmembers
  · exact fun hmembers => ⟨text, rfl, hmembers⟩

/-- A list is an opening bracket and then its items. -/
theorem reads_array_iff : Reads (.array items) ('[' :: text) rest ↔
    ReadsItems true items text rest := by
  rw [Reads]
  constructor
  · rintro ⟨body, hbody, hitems⟩
    cases hbody
    exact hitems
  · exact fun hitems => ⟨text, rfl, hitems⟩

/-- The first item may stand on a line of its own. -/
theorem readsItems_line_iff :
    ReadsItems true (value :: items) (lineBreak depth ++ text) rest ↔
      ∃ between, Reads value text between ∧ ReadsItems false items between rest := by
  have hspace {between : List Char} :
      Reads value (lineBreak depth ++ text) between ↔ Reads value text between :=
    reads_congr (skipSpace_lineBreak depth text)
  rw [ReadsItems]
  constructor
  · rintro ⟨body, between, rfl, hvalue, hitems⟩
    exact ⟨between, hspace.1 hvalue, hitems⟩
  · rintro ⟨between, hvalue, hitems⟩
    exact ⟨_, between, rfl, hspace.2 hvalue, hitems⟩

/-- Behind a comma the next item is read as the first one is. -/
theorem readsItems_comma_iff :
    ReadsItems false (value :: items) (',' :: text) rest ↔
      ReadsItems true (value :: items) text rest := by
  rw [ReadsItems, ReadsItems]
  constructor
  · rintro ⟨body, between, hcomma, hread⟩
    cases hcomma
    exact ⟨_, between, rfl, hread⟩
  · rintro ⟨body, between, rfl, hread⟩
    exact ⟨_, between, rfl, hread⟩

/-- A closing bracket on its own line ends the list. -/
theorem readsItems_close_iff :
    ReadsItems first [] (lineBreak depth ++ ']' :: text) rest ↔ rest = text := by
  rw [ReadsItems, skipSpace_lineBreak]
  exact ⟨fun h => (List.tail_eq_of_cons_eq h).symm, fun h => h ▸ rfl⟩

end

/-! ### Members with encoded values -/

/-- Members one a line, each with the text of its value, and what follows the last of them. -/
def memberLines (depth : Nat) : Members → (tail : List Char) → List Char
  | [], tail => tail
  | [(key, value)], tail => line depth key (value.encode ++ tail)
  | (key, value) :: member :: members, tail =>
    line depth key (value.encode ++ ',' :: memberLines depth (member :: members) tail)

/-- The lines are the members if all keys are plain. Values need no condition, as they were
encoded. -/
theorem readsMembers_memberLines_iff (depth outer : Nat) {text rest : List Char} :
    ReadsMembers true members (memberLines depth members (lineBreak outer ++ '}' :: text)) rest ↔
      (∀ member ∈ members, Plain member.1) ∧ rest = text := by
  induction members with
  | nil => simp [memberLines, readsMembers_close_iff]
  | cons first members ih =>
    obtain ⟨key, value⟩ := first
    cases members with
    | nil =>
      have hends : Ends (lineBreak outer ++ '}' :: text) := by simp [Ends, lineBreak, isNumeral]
      simp [memberLines, readsMembers_line_iff, reads_encode_iff value hends,
        readsMembers_close_iff]
    | cons member members =>
      have hends (tail : List Char) : Ends (',' :: tail) := by simp [Ends, isNumeral]
      simp [memberLines, readsMembers_line_iff, reads_encode_iff value (hends _),
        readsMembers_comma_iff, ih, and_assoc]

/-! ### What a text must be -/

section
variable {depth : Nat} {text rest : List Char}

/-- Only an object begins with a brace. -/
theorem Reads.exists_object (h : Reads value ('{' :: text) rest) :
    ∃ members, value = .object members ∧ ReadsMembers true members text rest := by
  obtain ⟨c, tail, htext, hkind, -⟩ := h.head
  cases htext
  cases value <;> simp [Value.kindName, kindOf] at hkind
  case object members => exact ⟨members, rfl, reads_object_iff.1 h⟩

/-- Only an array begins with a bracket. -/
theorem Reads.exists_array (h : Reads value ('[' :: text) rest) :
    ∃ items, value = .array items ∧ ReadsItems true items text rest := by
  obtain ⟨c, tail, htext, hkind, -⟩ := h.head
  cases htext
  cases value <;> simp [Value.kindName, kindOf] at hkind
  case array items => exact ⟨items, rfl, reads_array_iff.1 h⟩

/-- Only a string begins with a quote. -/
theorem Reads.exists_string (h : Reads value ('"' :: text) rest) :
    ∃ s, value = .string s ∧ readString text = .ok (s, rest) := by
  obtain ⟨c, tail, htext, hkind, -⟩ := h.head
  cases htext
  cases value <;> simp [Value.kindName, kindOf] at hkind
  case string s =>
    obtain ⟨quoted, hquoted, hstring⟩ := h
    cases hquoted
    exact ⟨s, rfl, hstring⟩

/-- A line with a plain key is a member with this key, whatever value it turns out to have. This is
how a text is refuted: its first lines are read without knowing the rest. -/
theorem ReadsMembers.exists_line {key : String}
    (h : ReadsMembers true members (line depth key text) rest) (hplain : Plain key) :
    ∃ value others between, members = (key, value) :: others ∧ Reads value text between ∧
      ReadsMembers false others between rest := by
  have hkey : ReadsKey key (line depth key text) (' ' :: text) :=
    (readsKey_raw_iff depth).2 ⟨hplain, rfl⟩
  cases members with
  | nil =>
    rw [ReadsMembers, line, skipSpace_lineBreak] at h
    cases h
  | cons member others =>
    obtain ⟨other, value⟩ := member
    obtain ⟨body, valued, between, rfl, hother, hvalue, hothers⟩ := h
    obtain ⟨rfl, rfl⟩ := hother.unique hkey
    have hspace : Reads value (' ' :: text) between ↔ Reads value text between := reads_congr rfl
    exact ⟨value, others, between, rfl, hspace.1 hvalue, hothers⟩

/-- A line that does not close an array is an item. -/
theorem ReadsItems.exists_line {c : Char}
    (h : ReadsItems true items (lineBreak depth ++ c :: text) rest) (hspace : isSpace c = false)
    (hclose : c ≠ ']') :
    ∃ item others between, items = item :: others ∧ Reads item (c :: text) between ∧
      ReadsItems false others between rest := by
  cases items with
  | nil =>
    rw [ReadsItems, skipSpace_lineBreak, skipSpace_of_head (by simpa using hspace)] at h
    exact absurd (List.head_eq_of_cons_eq h) hclose
  | cons item others =>
    obtain ⟨between, hitem, hothers⟩ := (readsItems_line_iff depth).1 h
    exact ⟨item, others, between, rfl, hitem, hothers⟩

/-- Behind a member there must be a comma or the closing brace. -/
theorem ReadsMembers.head {c : Char} (h : ReadsMembers false members (c :: text) rest)
    (hspace : isSpace c = false) : c = ',' ∨ c = '}' := by
  have hskip : skipSpace (c :: text) = c :: text := skipSpace_of_head (by simpa using hspace)
  cases members with
  | nil =>
    rw [ReadsMembers, hskip] at h
    exact .inr (List.head_eq_of_cons_eq h)
  | cons member others =>
    obtain ⟨body, valued, between, hcomma, -⟩ := h
    exact .inl (List.head_eq_of_cons_eq (hskip.symm.trans hcomma))

end

end DesignTokens.Json

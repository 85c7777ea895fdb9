import DesignTokens.Proofs.Value.Numerals
import DesignTokens.Proofs.Value.Strings

/-!
# JSON texts of values

What `Value.encode` writes says the value that was written (`reads_encode`), at any depth and with
any numbers and strings. The proof goes along the value as `encode` does. Behind a number there
must be something that ends it, which commas and brackets do.
-/

set_option autoImplicit false

namespace DesignTokens.Json

/-- Where no space stands, none is skipped. -/
theorem skipSpace_of_head {text : List Char} (h : ∀ c ∈ text.head?, isSpace c = false) :
    skipSpace text = text := by
  cases text with
  | nil => rfl
  | cons c text => rw [skipSpace, List.dropWhile_cons_of_neg (by simp [h c rfl])]

/-- A character that ends a number may follow. -/
def Ends (rest : List Char) : Prop :=
  ∀ c ∈ rest.head?, isNumeral c = false

/-- A number is read back from its text, wherever the text ends as a number can end. -/
theorem reads_number (n : Number) {rest : List Char} (h : Ends rest) :
    Reads (.number n) (n.encode ++ rest) rest := by
  have hne : n.encode ≠ [] := by
    intro hempty
    have hread := number?_encode n
    rw [hempty] at hread
    cases hread
  have hspace : skipSpace (n.encode ++ rest) = n.encode ++ rest := by
    apply skipSpace_of_head
    rw [List.head?_append_of_ne_nil _ hne]
    intro c hc
    have hnumeral := isNumeral_of_mem_encode c (List.mem_of_mem_head? hc)
    have hother (other : Char) (h : isNumeral other = false) : c ≠ other :=
      ne_of_isNumeral hnumeral h
    simp [isSpace, hother ' ' rfl, hother '\n' rfl, hother '\t' rfl, hother '\r' rfl]
  obtain ⟨htoken, hrest⟩ := span_append n.encode rest isNumeral_of_mem_encode h
  refine ⟨?_, ?_⟩
  · rw [hspace, htoken]
    exact number?_encode n
  · rw [hspace, hrest]

/-- A text is read back from its quoted form. -/
theorem reads_quoted (s : String) (rest : List Char) :
    Reads (.string s) (quoteText s.toList ++ rest) rest := by
  refine ⟨s.toList.flatMap escapeChar ++ '"' :: rest, ?_, readString_quoted s rest⟩
  rw [quoteText, List.cons_append, List.append_assoc]
  rfl

/-- So is a key, together with its colon. -/
theorem readsKey_quoted (key : String) (rest : List Char) :
    ReadsKey key (quoteText key.toList ++ ':' :: rest) rest := by
  refine ⟨key.toList.flatMap escapeChar ++ '"' :: ':' :: rest, ':' :: rest, ?_,
    readString_quoted key _, rfl⟩
  rw [quoteText, List.cons_append, List.append_assoc]
  rfl

/-- A comma stands before every item but the first. -/
theorem readsComma_encode (first : Bool) (text : List Char) :
    ReadsComma first ((if first then [] else [',']) ++ text) text := by
  cases first <;> rfl

/-- What follows an item in a list ends a number. -/
theorem ends_encodeItems (items : List Value) (rest : List Char) :
    Ends (Value.encodeItems false items ++ rest) := by
  cases items <;> simp [Value.encodeItems, Ends, isNumeral]

/-- So does what follows a member of an object. -/
theorem ends_encodeMembers (members : Members) (rest : List Char) :
    Ends (Value.encodeMembers false members ++ rest) := by
  cases members <;> simp [Value.encodeMembers, Ends, isNumeral]

mutual

/-- A value is said by its text. The recursion is that of the text: lists and members are read back
item by item, and a number needs something behind it that ends it. -/
theorem reads_encode : ∀ (value : Value) {rest : List Char}, Ends rest →
    Reads value (value.encode ++ rest) rest
  | .null, _, _ => rfl
  | .bool true, _, _ => rfl
  | .bool false, _, _ => rfl
  | .number n, _, h => reads_number n h
  | .string s, rest, _ => reads_quoted s rest
  | .array items, rest, _ =>
    ⟨Value.encodeItems true items ++ rest, rfl, readsItems_encode true items rest⟩
  | .object members, rest, _ =>
    ⟨Value.encodeMembers true members ++ rest, rfl, readsMembers_encode true members rest⟩

/-- The items of a list are read back, with whatever follows the list left over. -/
theorem readsItems_encode (first : Bool) : ∀ (items : List Value) (rest : List Char),
    ReadsItems first items (Value.encodeItems first items ++ rest) rest
  | [], rest => rfl
  | item :: items, rest => by
    rw [Value.encodeItems, List.append_assoc, List.append_assoc]
    exact ⟨_, _, readsComma_encode first _, reads_encode item (ends_encodeItems items rest),
      readsItems_encode false items rest⟩

/-- The same for the members of an object. -/
theorem readsMembers_encode (first : Bool) : ∀ (members : Members) (rest : List Char),
    ReadsMembers first members (Value.encodeMembers first members ++ rest) rest
  | [], rest => rfl
  | (key, value) :: members, rest => by
    rw [Value.encodeMembers, List.append_assoc, List.append_assoc, List.cons_append,
      List.append_assoc]
    exact ⟨_, _, _, readsComma_encode first _, readsKey_quoted key _,
      reads_encode value (ends_encodeMembers members rest), readsMembers_encode false members rest⟩

end

/-- The text of a value says nothing else. -/
theorem reads_encode_iff (value : Value) {other : Value} {rest rest' : List Char} (h : Ends rest) :
    Reads other (value.encode ++ rest) rest' ↔ other = value ∧ rest' = rest := by
  constructor
  · exact fun hreads => hreads.unique (reads_encode value h)
  · rintro ⟨rfl, rfl⟩
    exact reads_encode other h

end DesignTokens.Json

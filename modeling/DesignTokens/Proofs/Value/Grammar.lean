import DesignTokens.Number.Digits
import DesignTokens.Value.Decode

/-!
# What a text says as JSON

`Reads value text rest` holds if `text` begins with a JSON text of `value` and `rest` follows. It
is the grammar, without the limits of a reader: `decode` bounds the depth of containers and may
miss the last bit of a number, here containers nest as deep as they like, an integer has any
size, and a number with a point or an exponent is the nearest double. Characters of strings are
read as by `decode`. The relation goes along the value, and a text says at most one
(`Reads.unique`).
-/

set_option autoImplicit false

namespace DesignTokens.Json

/-! ### Numbers -/

/-- Whether a character may stand in a number. -/
def isNumeral (c : Char) : Bool :=
  c.isDigit || c = '-' || c = '+' || c = '.' || c = 'e' || c = 'E'

/-- The digits of the whole part, in front of which no zero may stand. -/
def whole? (digits : List Char) : Option Nat :=
  if digits.head? = some '0' ∧ digits ≠ ['0'] then none else readDigits? 10 digits

/-- The digits behind the point, if there is one. -/
def fraction? : List Char → Option (List Char)
  | [] => some []
  | '.' :: digits => (readDigits? 10 digits).map fun _ => digits
  | _ => none

/-- The power of ten behind its mark, if there is one. -/
def power? : List Char → Option Int
  | [] => some 0
  | _ :: '-' :: digits => (readDigits? 10 digits).map fun (n : Nat) => -(n : Int)
  | _ :: '+' :: digits => (readDigits? 10 digits).map Int.ofNat
  | _ :: digits => (readDigits? 10 digits).map Int.ofNat

/-- Whether a character stands in front of the mark of a power of ten. -/
def isMantissa (c : Char) : Bool :=
  c ≠ 'e' && c ≠ 'E'

/-- The number that a text without sign is. -/
def unsigned? (negative : Bool) (text : List Char) : Option Number := do
  let mantissa := text.takeWhile isMantissa
  let mark := text.dropWhile isMantissa
  let whole := mantissa.takeWhile Char.isDigit
  let point := mantissa.dropWhile Char.isDigit
  let n ← whole? whole
  if point.isEmpty && mark.isEmpty then
    return .integer (if negative then -n else n)
  let fraction ← fraction? point
  let power ← power? mark
  let digits ← readDigits? 10 (whole ++ fraction)
  let x ← Binary64.ofDecimal? negative digits (power - fraction.length)
  return .float x

/-- The number that a text is. -/
def number? : List Char → Option Number
  | '-' :: text => unsigned? true text
  | text => unsigned? false text

/-! ### Values -/

/-- What stands in front of an item or a member: a comma, unless it is the first. -/
def ReadsComma (first : Bool) (text rest : List Char) : Prop :=
  if first then text = rest else skipSpace text = ',' :: rest

/-- The text begins with the key of a member and its colon. -/
def ReadsKey (key : String) (text rest : List Char) : Prop :=
  ∃ quoted colon, skipSpace text = '"' :: quoted ∧ readString quoted = .ok (key, colon) ∧
    skipSpace colon = ':' :: rest

mutual

/-- The text begins with a value, and the rest follows it. -/
def Reads : Value → (text rest : List Char) → Prop
  | .null, text, rest => skipSpace text = 'n' :: 'u' :: 'l' :: 'l' :: rest
  | .bool true, text, rest => skipSpace text = 't' :: 'r' :: 'u' :: 'e' :: rest
  | .bool false, text, rest => skipSpace text = 'f' :: 'a' :: 'l' :: 's' :: 'e' :: rest
  | .number n, text, rest =>
    number? ((skipSpace text).takeWhile isNumeral) = some n ∧
      (skipSpace text).dropWhile isNumeral = rest
  | .string s, text, rest =>
    ∃ quoted, skipSpace text = '"' :: quoted ∧ readString quoted = .ok (s, rest)
  | .array items, text, rest =>
    ∃ body, skipSpace text = '[' :: body ∧ ReadsItems true items body rest
  | .object members, text, rest =>
    ∃ body, skipSpace text = '{' :: body ∧ ReadsMembers true members body rest

/-- The text begins with the items of an array and its closing bracket. -/
def ReadsItems (first : Bool) : List Value → (text rest : List Char) → Prop
  | [], text, rest => skipSpace text = ']' :: rest
  | item :: items, text, rest =>
    ∃ body between, ReadsComma first text body ∧ Reads item body between ∧
      ReadsItems false items between rest

/-- The text begins with the members of an object and its closing brace. -/
def ReadsMembers (first : Bool) : Members → (text rest : List Char) → Prop
  | [], text, rest => skipSpace text = '}' :: rest
  | (key, value) :: members, text, rest =>
    ∃ body valued between, ReadsComma first text body ∧ ReadsKey key body valued ∧
      Reads value valued between ∧ ReadsMembers false members between rest

end

/-- The text is a JSON document that says this value. -/
def IsDocument (text : String) (value : Value) : Prop :=
  ∃ rest, Reads value text.toList rest ∧ skipSpace rest = []

/-! ### One text, one value -/

/-- What a value is whose text begins with a character. -/
def kindOf (c : Char) : String :=
  if c = 'n' then "null"
  else if c = 't' ∨ c = 'f' then "a boolean"
  else if c = '"' then "a string"
  else if c = '[' then "an array"
  else if c = '{' then "an object"
  else "a number"

/-- A character of a number is none that cannot stand in one. -/
theorem ne_of_isNumeral {c other : Char} (h : isNumeral c = true)
    (hother : isNumeral other = false) :
    c ≠ other := by
  rintro rfl
  simp [h] at hother

/-- A character of a number starts a number and closes nothing. -/
theorem kindOf_of_isNumeral {c : Char} (h : isNumeral c = true) :
    kindOf c = "a number" ∧ c ≠ ']' ∧ c ≠ '}' := by
  have hne (other : Char) (hother : isNumeral other = false) : c ≠ other := ne_of_isNumeral h hother
  have hkind : kindOf c = "a number" := by
    simp [kindOf, hne 'n' rfl, hne 't' rfl, hne 'f' rfl, hne '"' rfl, hne '[' rfl, hne '{' rfl]
  exact ⟨hkind, hne ']' rfl, hne '}' rfl⟩

/-- The first character of a value tells what it is, and closes nothing. So two values of one text
are of the same kind, and a list with items is never read as an empty one. -/
theorem Reads.head {value : Value} {text rest : List Char} (h : Reads value text rest) :
    ∃ c tail, skipSpace text = c :: tail ∧ value.kindName = kindOf c ∧ c ≠ ']' ∧ c ≠ '}' := by
  cases value with
  | null => exact ⟨'n', _, h, rfl, by decide, by decide⟩
  | bool b =>
    cases b with
    | true => exact ⟨'t', _, h, rfl, by decide, by decide⟩
    | false => exact ⟨'f', _, h, rfl, by decide, by decide⟩
  | number n =>
    obtain ⟨hnumber, -⟩ := h
    cases htext : skipSpace text with
    | nil =>
      rw [htext] at hnumber
      cases hnumber
    | cons c tail =>
      -- a number is read as far as its characters go, so it starts with one of them
      cases hc : isNumeral c with
      | false =>
        rw [htext, List.takeWhile_cons, hc] at hnumber
        cases hnumber
      | true =>
        obtain ⟨hkind, hclose⟩ := kindOf_of_isNumeral hc
        exact ⟨c, tail, rfl, hkind.symm, hclose⟩
  | string s =>
    obtain ⟨quoted, hquoted, -⟩ := h
    exact ⟨'"', _, hquoted, rfl, by decide, by decide⟩
  | array items =>
    obtain ⟨body, hbody, -⟩ := h
    exact ⟨'[', _, hbody, rfl, by decide, by decide⟩
  | object members =>
    obtain ⟨body, hbody, -⟩ := h
    exact ⟨'{', _, hbody, rfl, by decide, by decide⟩

/-- Values that a text begins with are of one kind. -/
theorem Reads.kindName_eq {value other : Value} {text rest rest' : List Char}
    (h : Reads value text rest) (h' : Reads other text rest') :
    value.kindName = other.kindName := by
  obtain ⟨c, tail, htext, hkind, -⟩ := h.head
  obtain ⟨d, tail', htext', hkind', -⟩ := h'.head
  cases htext.symm.trans htext'
  rw [hkind, hkind']

/-- What a comma leaves is determined by the text. In front of the first item there is none. -/
theorem ReadsComma.unique {first : Bool} {text rest rest' : List Char}
    (h : ReadsComma first text rest) (h' : ReadsComma first text rest') : rest = rest' := by
  cases first with
  | true => exact h.symm.trans h'
  | false => exact List.tail_eq_of_cons_eq (h.symm.trans h')

/-- A text that goes on with something but a closing bracket or brace. -/
theorem ReadsComma.not_closed {first : Bool} {text body rest : List Char} {close c : Char}
    {tail : List Char} (h : ReadsComma first text body) (hbody : skipSpace body = c :: tail)
    (hc : c ≠ close) (hclose : close ≠ ',') : skipSpace text ≠ close :: rest := by
  cases first with
  | true =>
    cases h
    rw [hbody]
    exact fun heq => hc (List.head_eq_of_cons_eq heq)
  | false =>
    intro heq
    exact hclose (List.head_eq_of_cons_eq (heq.symm.trans h))

/-- A key is determined by the text it is read from, and so is what it leaves, down to the blanks
around its colon. -/
theorem ReadsKey.unique {key key' : String} {text rest rest' : List Char}
    (h : ReadsKey key text rest) (h' : ReadsKey key' text rest') : key = key' ∧ rest = rest' := by
  obtain ⟨quoted, colon, htext, hkey, hcolon⟩ := h
  obtain ⟨quoted', colon', htext', hkey', hcolon'⟩ := h'
  cases htext.symm.trans htext'
  cases hkey.symm.trans hkey'
  cases hcolon.symm.trans hcolon'
  exact ⟨rfl, rfl⟩

mutual

/-- A text begins with one value at most. The first character tells the kind of the value, and
within each kind the text is cut in one way only. -/
theorem Reads.unique : ∀ {value other : Value} {text rest rest' : List Char},
    Reads value text rest → Reads other text rest' → value = other ∧ rest = rest'
  | .null, other, text, rest, rest', h, h' => by
    have hkind := h.kindName_eq h'
    cases other <;> simp [Value.kindName] at hkind
    cases Eq.trans h.symm h'
    exact ⟨rfl, rfl⟩
  | .bool b, other, text, rest, rest', h, h' => by
    have hkind := h.kindName_eq h'
    cases other <;> simp [Value.kindName] at hkind
    case bool b' =>
      cases b <;> cases b' <;> cases Eq.trans h.symm h' <;> exact ⟨rfl, rfl⟩
  | .number n, other, text, rest, rest', h, h' => by
    have hkind := h.kindName_eq h'
    cases other <;> simp [Value.kindName] at hkind
    cases h.1.symm.trans h'.1
    exact ⟨rfl, h.2.symm.trans h'.2⟩
  | .string s, other, text, rest, rest', h, h' => by
    have hkind := h.kindName_eq h'
    cases other <;> simp [Value.kindName] at hkind
    obtain ⟨quoted, htext, hstring⟩ := h
    obtain ⟨quoted', htext', hstring'⟩ := h'
    cases htext.symm.trans htext'
    cases hstring.symm.trans hstring'
    exact ⟨rfl, rfl⟩
  | .array items, other, text, rest, rest', h, h' => by
    have hkind := h.kindName_eq h'
    cases other <;> simp [Value.kindName] at hkind
    obtain ⟨body, htext, hitems⟩ := h
    obtain ⟨body', htext', hitems'⟩ := h'
    cases htext.symm.trans htext'
    obtain ⟨rfl, rfl⟩ := hitems.unique hitems'
    exact ⟨rfl, rfl⟩
  | .object members, other, text, rest, rest', h, h' => by
    have hkind := h.kindName_eq h'
    cases other <;> simp [Value.kindName] at hkind
    obtain ⟨body, htext, hmembers⟩ := h
    obtain ⟨body', htext', hmembers'⟩ := h'
    cases htext.symm.trans htext'
    obtain ⟨rfl, rfl⟩ := hmembers.unique hmembers'
    exact ⟨rfl, rfl⟩

/-- The items of a list are determined by their text. The induction is on the items, with the values
inside them in the same recursion. -/
theorem ReadsItems.unique : ∀ {items others : List Value} {first : Bool}
    {text rest rest' : List Char},
    ReadsItems first items text rest → ReadsItems first others text rest' →
      items = others ∧ rest = rest'
  | [], [], first, text, rest, rest', h, h' => by
    cases Eq.trans h.symm h'
    exact ⟨rfl, rfl⟩
  | [], _ :: _, first, text, rest, rest', h, ⟨body, between, hcomma, hitem, _⟩ => by
    obtain ⟨c, tail, hbody, -, hbracket, -⟩ := hitem.head
    exact absurd h (hcomma.not_closed hbody hbracket (by decide))
  | _ :: _, [], first, text, rest, rest', ⟨body, between, hcomma, hitem, _⟩, h' => by
    obtain ⟨c, tail, hbody, -, hbracket, -⟩ := hitem.head
    exact absurd h' (hcomma.not_closed hbody hbracket (by decide))
  | item :: items, other :: others, first, text, rest, rest',
      ⟨body, between, hcomma, hitem, hitems⟩, ⟨body', between', hcomma', hitem', hitems'⟩ => by
    cases hcomma.unique hcomma'
    obtain ⟨rfl, rfl⟩ := hitem.unique hitem'
    obtain ⟨rfl, rfl⟩ := hitems.unique hitems'
    exact ⟨rfl, rfl⟩

/-- The same for the members of an object. Two runs of members end at the same brace, as no member
starts with one. -/
theorem ReadsMembers.unique : ∀ {members others : Members} {first : Bool}
    {text rest rest' : List Char},
    ReadsMembers first members text rest → ReadsMembers first others text rest' →
      members = others ∧ rest = rest'
  | [], [], first, text, rest, rest', h, h' => by
    cases Eq.trans h.symm h'
    exact ⟨rfl, rfl⟩
  | [], (_, _) :: _, first, text, rest, rest', h, ⟨body, valued, between, hcomma, hkey, _⟩ => by
    obtain ⟨quoted, colon, hbody, -⟩ := hkey
    exact absurd h (hcomma.not_closed hbody (by decide) (by decide))
  | (_, _) :: _, [], first, text, rest, rest', ⟨body, valued, between, hcomma, hkey, _⟩, h' => by
    obtain ⟨quoted, colon, hbody, -⟩ := hkey
    exact absurd h' (hcomma.not_closed hbody (by decide) (by decide))
  | (key, value) :: members, (key', other) :: others, first, text, rest, rest',
      ⟨body, valued, between, hcomma, hkey, hvalue, hmembers⟩,
      ⟨body', valued', between', hcomma', hkey', hvalue', hmembers'⟩ => by
    cases hcomma.unique hcomma'
    obtain ⟨rfl, rfl⟩ := hkey.unique hkey'
    obtain ⟨rfl, rfl⟩ := hvalue.unique hvalue'
    obtain ⟨rfl, rfl⟩ := hmembers.unique hmembers'
    exact ⟨rfl, rfl⟩

end

/-- A text is one document at most. So a text that is shown to be the document of a value is read as
that value by every reader of the grammar. -/
theorem IsDocument.unique {text : String} {value other : Value} (h : IsDocument text value)
    (h' : IsDocument text other) : value = other := by
  obtain ⟨rest, hreads, -⟩ := h
  obtain ⟨rest', hreads', -⟩ := h'
  exact (hreads.unique hreads').1

end DesignTokens.Json

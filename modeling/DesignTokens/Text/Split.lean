/-!
# Cutting and joining text

Pieces between separators, joins, and replacement of one text by another, on lists of characters.
Cutting at a character and joining again with it gives the text back (`join_splitOn`).
-/

set_option autoImplicit false

namespace DesignTokens.Text

/-- The pieces of a text between the occurrences of a character. There is always at least one
piece; neighbouring occurrences leave empty pieces. -/
def splitOn (separator : Char) : List Char → List (List Char)
  | [] => [[]]
  | c :: rest =>
    if c = separator then [] :: splitOn separator rest
    else
      match splitOn separator rest with
      | [] => [[c]]
      | piece :: pieces => (c :: piece) :: pieces

/-- The pieces written one after the other with `separator` between them. -/
def join (separator : List Char) : List (List Char) → List Char
  | [] => []
  | [piece] => piece
  | piece :: pieces => piece ++ separator ++ join separator pieces

/-- A split text has at least one piece, even if that is empty. -/
theorem splitOn_ne_nil (separator : Char) (text : List Char) : splitOn separator text ≠ [] := by
  cases text with
  | nil => simp [splitOn]
  | cons c rest =>
    simp only [splitOn]
    split
    · simp
    · split <;> simp

/-- Joining the pieces with the separator they were cut at gives the text back. So splitting loses
nothing, empty pieces at the ends included. -/
theorem join_splitOn (separator : Char) (text : List Char) :
    join [separator] (splitOn separator text) = text := by
  induction text with
  | nil => rfl
  | cons c rest ih =>
    simp only [splitOn]
    cases h : splitOn separator rest with
    | nil => exact absurd h (splitOn_ne_nil separator rest)
    | cons piece pieces =>
      rw [h] at ih
      split
      · rename_i hc
        simp [join, ih, hc]
      · cases pieces with
        | nil => simpa [join] using ih
        | cons next more => simpa [join] using ih

/-- The rest of `text` after `start`, if `text` begins with it. -/
def dropStart? : (start text : List Char) → Option (List Char)
  | [], text => some text
  | _ :: _, [] => none
  | a :: start, b :: text => if a = b then dropStart? start text else none

/-- What is left behind a start is what, together with the start, gives the text. -/
theorem dropStart?_eq_some_iff {start text rest : List Char} :
    dropStart? start text = some rest ↔ text = start ++ rest := by
  induction start generalizing text with
  | nil => simp [dropStart?]
  | cons a start ih =>
    cases text with
    | nil => simp [dropStart?]
    | cons b text =>
      by_cases hab : a = b
      · simp [dropStart?, hab, ih]
      · simp [dropStart?, hab, Ne.symm hab]

/-- Whether `part` occurs somewhere in `text`. -/
def contains (part : List Char) : List Char → Bool
  | [] => part.isEmpty
  | c :: rest => (dropStart? part (c :: rest)).isSome || contains part rest

/-- Walks over the text with `skip` characters of an occurrence still to pass. -/
def replaceAfter (old new : List Char) (skip : Nat) : List Char → List Char
  | [] => if old.isEmpty then new else []
  | c :: rest =>
    match skip with
    | skip + 1 => replaceAfter old new skip rest
    | 0 =>
      if old.isEmpty then new ++ c :: replaceAfter old new 0 rest
      else if (dropStart? old (c :: rest)).isSome then
        new ++ replaceAfter old new (old.length - 1) rest
      else c :: replaceAfter old new 0 rest

/-- The text with each occurrence of `old`, found from the left without overlap, replaced by
`new`. An empty `old` occurs before every character and at the end. -/
def replace (old new text : List Char) : List Char :=
  replaceAfter old new 0 text

/-- Replacements one after the other. -/
def replaceAll (pairs : List (List Char × List Char)) (text : List Char) : List Char :=
  pairs.foldl (fun text (old, new) => replace old new text) text

end DesignTokens.Text

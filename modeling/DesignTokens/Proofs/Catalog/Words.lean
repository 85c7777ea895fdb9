import DesignTokens.Proofs.Catalog.Names
import Mathlib.Data.List.Chain

/-!
# The words of a name

The camelCase rule runs over a name once for each separator: it cuts, capitalizes the pieces and
puts them together with spaces, so a later pass meets pieces that begin with spaces of an earlier
one and capitalizes them again. In the end this is one cut at all separators (`words`) with
every word capitalized once (`camelCase_eq_onePass`).

Two facts carry the argument through the passes. A pass leaves the words as they are, once they are
capitalized (`words_capitalizePieces`), and after the first pass, which cuts at spaces, every
character behind a space is capitalized (`SpacedUpper`). The passes leave no separator but
the space, so at the end the capitalized words are the words that stand there.
-/

set_option autoImplicit false

namespace DesignTokens

/-- Between the first piece of a join and the next one stands the separator. -/
theorem Text.join_cons_cons (separator : Char) (piece next : List Char)
    (rest : List (List Char)) :
    join [separator] (piece :: next :: rest) =
      piece ++ separator :: join [separator] (next :: rest) := by
  simp [join]

namespace Naming

/-- The words of a text: what stands between separators, unless it is empty. -/
def words (text : List Char) : List (List Char) :=
  (text.splitOnP (separators.contains ·)).filter (!·.isEmpty)

/-- The words of a text, capitalized and put together without blanks, the first character in
lowercase. -/
def onePass (text : List Char) : List Char :=
  Text.lowerFirst (((words text).map Text.upperFirst).flatten.filter (!Text.isBlank ·))

/-! ### Words -/

/-- No text, no words. -/
theorem words_nil : words [] = [] := by
  rw [words, List.splitOnP_nil]
  rfl

/-- A text without separators is one word, or none. -/
theorem words_of_forall_not_mem {text : List Char} (h : ∀ c ∈ text, c ∉ separators) :
    words text = [text].filter (!·.isEmpty) := by
  have hnone : ∀ c ∈ text, separators.contains c = false := by
    simpa using h
  rw [words, List.splitOnP_eq_singleton hnone]

/-- A separator ends a word: the words of a text that is cut there are those before it and those
behind it. -/
theorem words_append {separator : Char} (h : separator ∈ separators) (text more : List Char) :
    words (text ++ separator :: more) = words text ++ words more := by
  have hcut : separators.contains separator = true := by
    simpa using h
  rw [words, List.splitOnP_append_cons _ _ hcut, List.filter_append]
  rfl

/-- Joined by a separator, pieces keep the words they have each for themselves. -/
theorem words_join {separator : Char} (h : separator ∈ separators) (pieces : List (List Char)) :
    words (Text.join [separator] pieces) = pieces.flatMap words := by
  induction pieces with
  | nil => exact words_nil
  | cons piece pieces ih =>
    cases pieces with
    | nil => simp [Text.join]
    | cons next rest =>
      rw [Text.join_cons_cons, words_append h, ih]
      rfl

/-- Cutting at one separator cuts no word. -/
theorem words_eq_flatMap {separator : Char} (h : separator ∈ separators) (text : List Char) :
    words text = (Text.splitOn separator text).flatMap words := by
  rw [← words_join h, Text.join_splitOn]

/-- Pieces without a character have no words, so they can be left out. -/
theorem flatMap_words_filter (pieces : List (List Char)) :
    (pieces.filter (!·.isEmpty)).flatMap words = pieces.flatMap words := by
  induction pieces with
  | nil => rfl
  | cons piece pieces ih =>
    cases piece with
    | nil => simpa [words_nil] using ih
    | cons c rest => simp [ih]

/-! ### Capitalized words -/

/-- A separator has no upper case form but itself. -/
theorem upperChar_of_mem {c : Char} (h : c ∈ separators) : Text.upperChar c = [c] := by
  have hall : ∀ code ∈ separators.map Char.toNat,
      Text.Unmapped Text.uppercaseSpecials Text.uppercaseRanges code := by
    decide +kernel
  exact Text.mapCase_of_unmapped (hall c.toNat (List.mem_map_of_mem h))

/-- Writing the first letter of a word in upper case changes no word beyond its first letter,
even where the upper case form has more than one character. -/
theorem capitalize_word {word : List Char} (h : ∀ c ∈ word, c ∉ separators) :
    (words (Text.upperFirst word)).map Text.upperFirst = (words word).map Text.upperFirst := by
  have hupper : ∀ c ∈ Text.upperFirst word, c ∉ separators := by
    intro c hc hseparator
    exact Text.not_mem_upperFirst (.inr hseparator) (fun hmem => h c hmem hseparator) hc
  cases word with
  | nil => rfl
  | cons c rest =>
    have hne : Text.upperFirst (c :: rest) ≠ [] := by
      obtain ⟨first, behind, himage, -⟩ := Text.upperChar_eq_cons c
      simp [Text.upperFirst, himage]
    rw [words_of_forall_not_mem h, words_of_forall_not_mem hupper]
    simp [hne, Text.upperFirst_upperFirst]

/-- Capitalizing a text touches its first word only, and that word for good. A separator in front is
its own upper case form, and then the first word is not touched at all. -/
theorem capitalize_words (text : List Char) :
    (words (Text.upperFirst text)).map Text.upperFirst = (words text).map Text.upperFirst := by
  cases hfind : text.find? (separators.contains ·) with
  | none =>
    have hnone : ∀ c ∈ text, c ∉ separators := by
      simpa using List.find?_eq_none.1 hfind
    exact capitalize_word hnone
  | some separator =>
    obtain ⟨hcut, word, more, rfl, hword⟩ := List.find?_eq_some_iff_append.1 hfind
    have hseparator : separator ∈ separators := by
      simpa using hcut
    have hnone : ∀ c ∈ word, c ∉ separators := by
      simpa using hword
    -- a text that starts with a separator has no first word to touch
    cases word with
    | nil =>
      rw [List.nil_append, Text.upperFirst, upperChar_of_mem hseparator]
      rfl
    | cons c rest =>
      have happend : Text.upperFirst (c :: rest ++ separator :: more) =
          Text.upperFirst (c :: rest) ++ separator :: more := by
        simp [Text.upperFirst]
      rw [happend, words_append hseparator, words_append hseparator, List.map_append,
        List.map_append, capitalize_word hnone]

/-- A pass keeps the capitalized words. It may join them with spaces where its own separator stood,
but a space is a separator as well, and capitalizing twice is capitalizing once. This is the step of
the induction over the passes. -/
theorem words_capitalizePieces {separator : Char} (h : separator ∈ separators)
    (text : List Char) :
    (words (capitalizePieces text separator)).map Text.upperFirst =
      (words text).map Text.upperFirst := by
  have hspace : ' ' ∈ separators := by decide
  rw [capitalizePieces, words_join hspace, List.flatMap_map, List.map_flatMap]
  simp only [capitalize_words]
  rw [← List.map_flatMap, flatMap_words_filter, ← words_eq_flatMap h]

/-- The passes of the program, one separator after the other, leave the words of a text as they are
once each of them starts with its upper case form. -/
theorem words_foldl {cuts : List Char} (h : ∀ c ∈ cuts, c ∈ separators) (text : List Char) :
    (words (cuts.foldl capitalizePieces text)).map Text.upperFirst =
      (words text).map Text.upperFirst := by
  induction cuts generalizing text with
  | nil => rfl
  | cons cut cuts ih =>
    rw [List.foldl_cons, ih fun c hc => h c (List.mem_cons_of_mem _ hc),
      words_capitalizePieces (h cut List.mem_cons_self)]

/-! ### Spaces -/

/-- Every character behind a space is capitalized. -/
def SpacedUpper (text : List Char) : Prop :=
  text.IsChain fun c next => c = ' ' → Text.upperChar next = [next]

/-- A space is its own upper case form. -/
theorem upperChar_space : Text.upperChar ' ' = [' '] :=
  upperChar_of_mem (by decide)

/-- A text without a space has no character that would have to be capitalized. -/
theorem spacedUpper_of_not_mem {text : List Char} (h : ' ' ∉ text) : SpacedUpper text := by
  induction text with
  | nil => exact .nil
  | cons c rest ih =>
    refine List.isChain_cons.2 ⟨fun next _ hc => ?_, ih fun hmem => h (List.mem_cons_of_mem _ hmem)⟩
    exact absurd (hc ▸ List.mem_cons_self) h

/-- A text that is capitalized may stand behind a space. The upper case form of a letter is not
changed by another pass, even if it has several characters. -/
theorem SpacedUpper.upperFirst {text : List Char} (h : SpacedUpper text) :
    SpacedUpper (' ' :: Text.upperFirst text) := by
  cases text with
  | nil => exact .singleton _
  | cons c rest =>
    obtain ⟨first, behind, himage, hfirst⟩ := Text.upperChar_eq_cons c
    have hupper : Text.upperFirst (c :: rest) = (first :: behind) ++ rest := by
      rw [Text.upperFirst, himage]
    have hhead : ∀ next ∈ ((first :: behind) ++ rest).head?, ' ' = ' ' →
        Text.upperChar next = [next] := by
      intro next hnext _
      obtain rfl : first = next := by simpa using hnext
      exact hfirst
    rw [hupper]
    refine List.isChain_cons.2 ⟨hhead, ?_⟩
    by_cases hc : c = ' '
    · -- a space is its own image, so the text is the same as before
      have hsame : (first :: behind) ++ rest = c :: rest := by
        rw [← hupper, hc, Text.upperFirst, upperChar_space, List.singleton_append]
      rwa [hsame]
    · have hfree : ' ' ∉ first :: behind := by
        intro hmem
        have hword : ' ' ∉ Text.upperFirst [c] :=
          Text.not_mem_upperFirst (.inr (by decide)) fun hspace =>
            hc (List.mem_singleton.1 hspace).symm
        exact hword (List.mem_append_left _ (himage ▸ hmem))
      refine List.isChain_append.2
        ⟨spacedUpper_of_not_mem hfree, (List.isChain_cons.1 h).2, fun last hlast _ _ hspace => ?_⟩
      exact absurd (hspace ▸ List.mem_of_mem_getLast? hlast) hfree

/-- Between spaces, every piece is capitalized as if it stood behind one, which the first piece does
here as well. -/
theorem spacedUpper_join_iff (pieces : List (List Char)) :
    SpacedUpper (' ' :: Text.join [' '] pieces) ↔
      ∀ piece ∈ pieces, SpacedUpper (' ' :: piece) := by
  induction pieces with
  | nil => simp [Text.join, SpacedUpper]
  | cons piece pieces ih =>
    cases pieces with
    | nil => simp [Text.join]
    | cons next rest =>
      rw [Text.join_cons_cons, ← List.cons_append, SpacedUpper, List.isChain_append,
        List.forall_mem_cons]
      refine and_congr_right fun _ => ?_
      rw [← ih, and_iff_left]
      · rfl
      · intro last _ first hfirst _
        obtain rfl : ' ' = first := by simpa using hfirst
        exact upperChar_space

/-- A piece of a joined text has its characters behind spaces capitalized if the whole text has,
since what stands behind a space of the piece stands behind the same space of the text. -/
theorem SpacedUpper.of_mem_join {separator : Char} {pieces : List (List Char)}
    (h : SpacedUpper (Text.join [separator] pieces)) {piece : List Char}
    (hmem : piece ∈ pieces) : SpacedUpper piece := by
  induction pieces with
  | nil => cases hmem
  | cons first pieces ih =>
    cases pieces with
    | nil =>
      obtain rfl := List.mem_singleton.1 hmem
      exact h
    | cons next rest =>
      rw [Text.join_cons_cons] at h
      obtain ⟨hstart, hmore, -⟩ := List.isChain_append.1 h
      rcases List.mem_cons.1 hmem with rfl | hlater
      · exact hstart
      · exact ih (List.isChain_cons.1 hmore).2 hlater

/-- The pieces that a text is split into keep their characters behind spaces capitalized, since
joining the pieces gives the text again. -/
theorem SpacedUpper.of_mem_splitOn {separator : Char} {text piece : List Char}
    (h : SpacedUpper text) (hmem : piece ∈ Text.splitOn separator text) : SpacedUpper piece := by
  rw [← Text.join_splitOn separator text] at h
  exact h.of_mem_join hmem

/-- A pass capitalizes the first letter of each piece and joins the pieces with spaces, so every
character behind a space of what it leaves is capitalized if that holds inside the pieces. -/
theorem spacedUpper_capitalizePieces {separator : Char} {text : List Char}
    (h : ∀ piece ∈ Text.splitOn separator text, SpacedUpper piece) :
    SpacedUpper (' ' :: capitalizePieces text separator) := by
  rw [capitalizePieces, spacedUpper_join_iff]
  intro piece hpiece
  obtain ⟨raw, hraw, rfl⟩ := List.mem_map.1 hpiece
  exact (h raw (List.mem_filter.1 hraw).1).upperFirst

/-- The first pass cuts at spaces, and the others keep what it does behind them. -/
theorem spacedUpper_foldl {cuts : List Char} (text : List Char) :
    SpacedUpper (' ' :: (' ' :: cuts).foldl capitalizePieces text) := by
  rw [List.foldl_cons]
  have hfirst : SpacedUpper (' ' :: capitalizePieces text ' ') :=
    spacedUpper_capitalizePieces fun piece hpiece =>
      spacedUpper_of_not_mem (Text.not_mem_of_mem_splitOn hpiece)
  generalize capitalizePieces text ' ' = passed at hfirst
  induction cuts generalizing passed with
  | nil => exact hfirst
  | cons cut cuts ih =>
    apply ih
    exact spacedUpper_capitalizePieces fun piece hpiece =>
      SpacedUpper.of_mem_splitOn (List.isChain_cons.1 hfirst).2 hpiece

/-! ### One cut -/

/-- Without other separators, the words are what stands between spaces, as far as anything does.
This is the state that the last pass leaves. -/
theorem words_of_spaces {text : List Char} (h : ∀ c ∈ text, c ∈ separators → c = ' ') :
    words text = (Text.splitOn ' ' text).filter (!·.isEmpty) := by
  have hpieces : ∀ piece ∈ Text.splitOn ' ' text, words piece = [piece].filter (!·.isEmpty) := by
    intro piece hpiece
    apply words_of_forall_not_mem
    intro c hc hseparator
    obtain rfl := h c (Text.mem_of_mem_splitOn hpiece hc) hseparator
    exact Text.not_mem_of_mem_splitOn hpiece hc
  rw [words_eq_flatMap (by decide : ' ' ∈ separators)]
  generalize Text.splitOn ' ' text = pieces at hpieces
  induction pieces with
  | nil => rfl
  | cons piece pieces ih =>
    obtain ⟨hpiece, hrest⟩ := List.forall_mem_cons.1 hpieces
    rw [List.flatMap_cons, hpiece, ih hrest, ← List.filter_append]
    rfl

/-- Without its blanks, a text joined with spaces is its pieces one after the other. -/
theorem filter_join (pieces : List (List Char)) :
    (Text.join [' '] pieces).filter (!Text.isBlank ·) =
      pieces.flatten.filter (!Text.isBlank ·) := by
  have hblank : Text.isBlank ' ' = true := by decide
  induction pieces with
  | nil => rfl
  | cons piece pieces ih =>
    cases pieces with
    | nil => simp [Text.join]
    | cons next rest =>
      rw [Text.join_cons_cons, List.filter_append, List.filter_cons_of_neg (by simp [hblank]), ih,
        ← List.filter_append]
      rfl

/-- Without blanks, a text without other separators is its words. -/
theorem filter_of_spaces {text : List Char} (h : ∀ c ∈ text, c ∈ separators → c = ' ') :
    text.filter (!Text.isBlank ·) = (words text).flatten.filter (!Text.isBlank ·) := by
  rw [words_of_spaces h, List.flatten_filter_not_isEmpty, ← filter_join, Text.join_splitOn]

/-- The first character of a word stands behind a space. -/
theorem upperFirst_words {text : List Char} (h : ∀ c ∈ text, c ∈ separators → c = ' ')
    (hspaced : SpacedUpper (' ' :: text)) : (words text).map Text.upperFirst = words text := by
  rw [← Text.join_splitOn ' ' text, spacedUpper_join_iff] at hspaced
  rw [words_of_spaces h]
  refine (List.map_congr_left fun word hword => ?_).trans (List.map_id _)
  have hpiece := hspaced word (List.mem_filter.1 hword).1
  cases word with
  | nil => rfl
  | cons c rest =>
    have hc : Text.upperChar c = [c] := (List.isChain_cons.1 hpiece).1 c (by simp) rfl
    rw [Text.upperFirst, hc]
    rfl

/-- What the passes make of a name before blanks go. -/
theorem words_passes (text : List Char) :
    (∀ c ∈ separators.foldl capitalizePieces text, c ∈ separators → c = ' ') ∧
      words (separators.foldl capitalizePieces text) = (words text).map Text.upperFirst := by
  have hspaces : ∀ c ∈ separators.foldl capitalizePieces text, c ∈ separators → c = ' ' := by
    intro c hc hseparator
    by_contra hne
    exact not_mem_foldl (.inr hseparator) hne (.inr hseparator) hc
  refine ⟨hspaces, ?_⟩
  rw [← upperFirst_words hspaces (spacedUpper_foldl text), words_foldl (fun _ h => h)]

/-- The camelCase rule cuts at all separators at once, and leaves neither blanks nor separators. The
program makes one pass for each separator. No pass changes the capitalized words
(`words_capitalizePieces`), and in the end the blanks between them are dropped. -/
theorem camelCase_eq_onePass (name : String) :
    camelCase name = String.ofList (onePass name.toList) ∧
      ∀ c ∈ (camelCase name).toList, Text.isBlank c = false ∧ c ∉ separators := by
  constructor
  · obtain ⟨hspaces, hwords⟩ := words_passes name.toList
    rw [camelCase, camelCaseText, filter_of_spaces hspaces, hwords]
    rfl
  · intro c hc
    rw [camelCase, String.toList_ofList] at hc
    constructor
    · rw [Bool.eq_false_iff]
      exact fun hblank => not_mem_camelCaseText (.inl hblank) _ hc
    · exact fun hseparator => not_mem_camelCaseText (.inr hseparator) _ hc

end Naming

end DesignTokens

import DesignTokens.Proofs.Result
import DesignTokens.Value.Decode
import DesignTokens.Value.Encode

/-!
# Strings in JSON

The characters of a JSON string are read one after another, each as it is or from an escape
(`readString_eq_ok_iff`). A text that is quoted by `quoteText` reads as itself
(`readString_quoted`). A text between quotes as it stands does so exactly if it is *plain*, that is
without quotes, backslashes and control characters (`readString_raw_iff`).
-/

set_option autoImplicit false

namespace DesignTokens.Json

/-! ### Characters in turn -/

/-- The text begins with these characters as a JSON string has them, and its closing quote. -/
inductive ReadsCharacters : (characters text rest : List Char) → Prop
  | close (rest : List Char) : ReadsCharacters [] ('"' :: rest) rest
  | escape {c : Char} {characters text between rest : List Char}
      (hc : readEscape text = .ok (c, between)) (h : ReadsCharacters characters between rest) :
      ReadsCharacters (c :: characters) ('\\' :: text) rest
  | plain {c : Char} {characters text rest : List Char} (hquote : c ≠ '"') (hslash : c ≠ '\\')
      (hcontrol : 32 ≤ c.toNat) (h : ReadsCharacters characters text rest) :
      ReadsCharacters (c :: characters) (c :: text) rest

/-- Four digits are taken off, and none of them is a quote. -/
theorem readHex4_spec {text rest : List Char} {n : Nat} (h : readHex4 text = .ok (n, rest)) :
    ∃ digits, text = digits ++ rest ∧ '"' ∉ digits := by
  unfold readHex4 at h
  split at h
  case h_1 a b c d rest' =>
    split at h
    case h_1 ha hb hc hd =>
      cases h
      have hne {c : Char} {n : Nat} (hc : hexValue? c = some n) : '"' ≠ c := by
        rintro rfl
        cases hc
      exact ⟨[a, b, c, d], rfl, by simp [hne ha, hne hb, hne hc, hne hd]⟩
    case h_2 => cases h
  case h_2 => cases h

/-- What an escape takes off holds a quote only if the escape is one. The cases are those of the
letter behind the backslash; a pair of code units takes off two escapes. -/
theorem readEscape_spec {text rest : List Char} {c : Char} (h : readEscape text = .ok (c, rest)) :
    ∃ used, used ≠ [] ∧ text = used ++ rest ∧ (c ≠ '"' → '"' ∉ used) := by
  unfold readEscape at h
  split at h
  case h_1 text =>
    obtain ⟨⟨unit, behind⟩, hunit, hbehind⟩ := Result.bind_eq_ok_iff.1 h
    obtain ⟨digits, rfl, hdigits⟩ := readHex4_spec hunit
    clear h hunit
    dsimp only at hbehind
    split at hbehind
    · cases hbehind
    -- the first half of a pair takes a second escape with it
    split at hbehind
    · split at hbehind
      · obtain ⟨⟨low, last⟩, hlow, hlast⟩ := Result.bind_eq_ok_iff.1 hbehind
        obtain ⟨more, rfl, hmore⟩ := readHex4_spec hlow
        dsimp only at hlast
        split at hlast
        · cases hlast
        · obtain ⟨-, rfl⟩ := Prod.mk.inj (Except.ok.inj hlast)
          exact ⟨'u' :: (digits ++ '\\' :: 'u' :: more), by simp, by simp, by simp [hdigits, hmore]⟩
      · cases hbehind
    · cases hbehind
      exact ⟨'u' :: digits, by simp, by simp, by simp [hdigits]⟩
  case h_2 letter text _ =>
    split at h
    case h_1 found hfound =>
      cases h
      refine ⟨[letter], by simp, rfl, ?_⟩
      rw [List.mem_singleton]
      rintro hc rfl
      exact hc (Option.some.inj hfound).symm
    case h_2 => cases h
  case h_3 => cases h

/-- The reader finds the characters of a text that the relation gives. The fuel has to exceed their
number, for the closing quote. -/
theorem readCharacters_of_reads {characters text rest : List Char}
    (h : ReadsCharacters characters text rest) (reversed : List Char) {fuel : Nat}
    (hfuel : characters.length < fuel) :
    readCharacters fuel reversed text = .ok (reversed.reverse ++ characters, rest) := by
  induction h generalizing reversed fuel with
  | close rest =>
    obtain ⟨fuel, rfl⟩ := Nat.exists_eq_succ_of_ne_zero (Nat.ne_of_gt hfuel)
    simp [readCharacters]
  | @escape c _ _ _ _ hc _ ih =>
    obtain ⟨fuel, rfl⟩ := Nat.exists_eq_succ_of_ne_zero (Nat.ne_zero_of_lt hfuel)
    have hrest := ih (c :: reversed) (Nat.lt_of_succ_lt_succ hfuel)
    simp only [readCharacters, hc, bind, Except.bind, hrest]
    simp
  | @plain c _ _ _ hquote hslash hcontrol _ ih =>
    obtain ⟨fuel, rfl⟩ := Nat.exists_eq_succ_of_ne_zero (Nat.ne_zero_of_lt hfuel)
    have hrest := ih (c :: reversed) (Nat.lt_of_succ_lt_succ hfuel)
    simp only [readCharacters, Nat.not_lt.2 hcontrol, if_false, hrest]
    simp

/-- What the reader finds is what the relation gives. The induction is on the fuel, with the
characters that were read so far in reverse. -/
theorem reads_of_readCharacters {fuel : Nat} {reversed text found rest : List Char}
    (h : readCharacters fuel reversed text = .ok (found, rest)) :
    ∃ characters, found = reversed.reverse ++ characters ∧
      ReadsCharacters characters text rest := by
  induction fuel generalizing reversed text with
  | zero => cases h
  | succ fuel ih =>
    unfold readCharacters at h
    split at h
    case h_1 => cases h
    case h_2 behind =>
      cases h
      exact ⟨[], by simp, .close _⟩
    case h_3 behind =>
      obtain ⟨⟨c, between⟩, hc, hbetween⟩ := Result.bind_eq_ok_iff.1 h
      obtain ⟨characters, rfl, hcharacters⟩ := ih hbetween
      exact ⟨c :: characters, by simp, .escape hc hcharacters⟩
    case h_4 c behind hquote hslash =>
      split at h
      · cases h
      · obtain ⟨characters, rfl, hcharacters⟩ := ih h
        exact ⟨c :: characters, by simp,
          .plain (fun hc => hquote hc) (fun hc => hslash hc) (by omega) hcharacters⟩

/-- Every character takes up some of the text, and the quote does at the end. -/
theorem ReadsCharacters.length_lt {characters text rest : List Char}
    (h : ReadsCharacters characters text rest) : characters.length < text.length := by
  induction h with
  | close rest => simp
  | escape hc _ ih =>
    obtain ⟨used, hne, rfl, -⟩ := readEscape_spec hc
    have hused := List.length_pos_iff.2 hne
    simp only [List.length_cons, List.length_append]
    omega
  | plain _ _ _ _ ih => simpa using ih

/-- A string is read character by character. The reader has fuel and collects in reverse; the
relation has neither, and results about strings use it alone. -/
theorem readString_eq_ok_iff {text rest : List Char} {s : String} :
    readString text = .ok (s, rest) ↔ ReadsCharacters s.toList text rest := by
  rw [readString, Result.bind_eq_ok_iff]
  constructor
  · rintro ⟨⟨characters, behind⟩, hread, hpure⟩
    cases hpure
    obtain ⟨found, rfl, hfound⟩ := reads_of_readCharacters hread
    simpa using hfound
  · intro h
    refine ⟨(s.toList, rest), ?_, by simp [pure, Except.pure]⟩
    exact readCharacters_of_reads h [] (Nat.lt_succ_of_lt h.length_lt)

/-! ### Quoted texts -/

/-- Each hexadecimal digit that is written is read back. -/
theorem hexValue?_hexDigit : ∀ n < 16, hexValue? (hexDigit n) = some n := by
  decide

/-- The code of a control character is read as it. -/
theorem readEscape_control {n : Nat} (h : n < 32) (rest : List Char) :
    readEscape ('u' :: '0' :: '0' :: hexDigit (n / 16) :: hexDigit (n % 16) :: rest) =
      .ok (Char.ofNat n, rest) := by
  have hzero : hexValue? '0' = some 0 := by decide
  have hhigh := hexValue?_hexDigit (n / 16) (by omega)
  have hlow := hexValue?_hexDigit (n % 16) (by omega)
  have hhex : readHex4 ('0' :: '0' :: hexDigit (n / 16) :: hexDigit (n % 16) :: rest) =
      .ok (n, rest) := by
    simp only [readHex4, hzero, hhigh, hlow]
    rw [show ((0 * 16 + 0) * 16 + n / 16) * 16 + n % 16 = n by omega]
  have hsurrogate : ¬ 0xDC00 ≤ n ∧ ¬ 0xD800 ≤ n := by omega
  simp [readEscape, hhex, hsurrogate, bind, Except.bind, pure, Except.pure]

/-- A character as `escapeChar` writes it is read as it. It is written plainly, as a letter behind a
backslash, or by its code. -/
theorem ReadsCharacters.escapeChar {characters text rest : List Char}
    (h : ReadsCharacters characters text rest) (c : Char) :
    ReadsCharacters (c :: characters) (escapeChar c ++ text) rest := by
  have hcode {n : Nat} (hn : c.toNat = n) : c = Char.ofNat n := by rw [← hn, Char.ofNat_toNat]
  unfold DesignTokens.escapeChar
  split_ifs with hquote hslash hline hreturn htab hback hfeed hcontrol
  · rw [hquote]; exact .escape rfl h
  · rw [hslash]; exact .escape rfl h
  · rw [hline]; exact .escape rfl h
  · rw [hreturn]; exact .escape rfl h
  · rw [htab]; exact .escape rfl h
  · rw [hcode hback]; exact .escape rfl h
  · rw [hcode hfeed]; exact .escape rfl h
  · have hread := readEscape_control hcontrol text
    rw [Char.ofNat_toNat] at hread
    exact .escape hread h
  · exact .plain hquote hslash (Nat.le_of_not_lt hcontrol) h

/-- A quoted text is read as itself: each character is written plainly or as an escape, and either
form is read back. -/
theorem readString_quoted (s : String) (rest : List Char) :
    readString (s.toList.flatMap escapeChar ++ '"' :: rest) = .ok (s, rest) := by
  rw [readString_eq_ok_iff]
  induction s.toList with
  | nil => exact .close rest
  | cons c characters ih =>
    rw [List.flatMap_cons, List.append_assoc]
    exact ih.escapeChar c

/-! ### Plain texts -/

/-- Without quotes, backslashes and control characters. -/
def Plain (text : String) : Prop :=
  ∀ c ∈ text.toList, c ≠ '"' ∧ c ≠ '\\' ∧ 32 ≤ c.toNat

instance (text : String) : Decidable (Plain text) :=
  List.decidableBAll _ _

/-- A text in front of a quote and one without quotes in front of the same. -/
theorem append_quote_eq {text used tail between : List Char}
    (h : text ++ '"' :: tail = used ++ between)
    (hused : '"' ∉ used) : ∃ more, text = used ++ more ∧ between = more ++ '"' :: tail := by
  rcases List.append_eq_append_iff.1 h with ⟨more, hmore, htail⟩ | ⟨more, htext, hbetween⟩
  · cases more with
    | nil => exact ⟨[], by simpa using hmore.symm, by simpa using htail.symm⟩
    | cons c more =>
      cases List.head_eq_of_cons_eq htail
      exact absurd (by simp [hmore]) hused
  · exact ⟨more, htext, hbetween⟩

/-- Once an escape was read, reading lags behind its text: the characters still to come are more
than those that stand in front of the quote, and none of the former is one. -/
theorem ReadsCharacters.not_behind {characters text rest : List Char}
    (h : ReadsCharacters characters text rest) {ahead behind tail : List Char} (hne : ahead ≠ [])
    (hquote : '"' ∉ ahead) (hcharacters : characters = ahead ++ behind) :
    text ≠ behind ++ '"' :: tail := by
  induction h generalizing ahead behind with
  | close rest => exact absurd (List.append_eq_nil_iff.1 hcharacters.symm).1 hne
  | escape hc _ ih =>
    intro htext
    obtain ⟨first, ahead, rfl⟩ := List.exists_cons_of_ne_nil hne
    obtain ⟨rfl, rfl⟩ := List.cons.inj hcharacters
    rw [List.mem_cons, not_or] at hquote
    cases behind with
    | nil => cases htext
    | cons second behind =>
      obtain ⟨rfl, rfl⟩ := List.cons.inj htext
      obtain ⟨used, -, heq, hused⟩ := readEscape_spec hc
      have hused := hused (Ne.symm hquote.1)
      obtain ⟨more, rfl, hbetween⟩ := append_quote_eq heq hused
      -- the escape is longer than the character it stands for, so reading falls further behind
      refine @ih (ahead ++ '\\' :: used) more (by simp) ?_ (by simp) hbetween
      simp [hquote.2, hused]
  | @plain c _ _ _ hnoquote _ _ _ ih =>
    intro htext
    obtain ⟨first, ahead, rfl⟩ := List.exists_cons_of_ne_nil hne
    obtain ⟨rfl, rfl⟩ := List.cons.inj hcharacters
    rw [List.mem_cons, not_or] at hquote
    cases behind with
    | nil => exact hnoquote (List.head_eq_of_cons_eq htext)
    | cons second behind =>
      obtain ⟨rfl, rfl⟩ := List.cons.inj htext
      refine @ih (ahead ++ [c]) behind (by simp) ?_ (by simp) rfl
      simp [hquote]

/-- A text between quotes reads as itself only if it is plain. -/
theorem ReadsCharacters.plain_of_raw {characters text rest tail : List Char}
    (h : ReadsCharacters characters text rest) (htext : text = characters ++ '"' :: tail) :
    (∀ c ∈ characters, c ≠ '"' ∧ c ≠ '\\' ∧ 32 ≤ c.toNat) ∧ rest = tail := by
  induction h with
  | close rest => simpa using htext
  | escape hc hrest _ =>
    obtain ⟨rfl, rfl⟩ := List.cons.inj htext
    obtain ⟨used, hne, heq, hused⟩ := readEscape_spec hc
    have hused := hused (by decide)
    obtain ⟨more, rfl, hbetween⟩ := append_quote_eq heq hused
    exact absurd hbetween (hrest.not_behind hne hused rfl)
  | plain hquote hslash hcontrol _ ih =>
    obtain ⟨hplain, rfl⟩ := ih (List.tail_eq_of_cons_eq htext)
    exact ⟨List.forall_mem_cons.2 ⟨⟨hquote, hslash, hcontrol⟩, hplain⟩, rfl⟩

/-- A text between quotes reads as itself exactly if it is plain. Behind an escape, reading would
have used more text than it gives characters, so it could not end at the last quote. -/
theorem readString_raw_iff {s : String} {tail rest : List Char} :
    readString (s.toList ++ '"' :: tail) = .ok (s, rest) ↔ Plain s ∧ rest = tail := by
  rw [readString_eq_ok_iff, Plain]
  constructor
  · exact fun h => h.plain_of_raw rfl
  · rintro ⟨hplain, rfl⟩
    generalize s.toList = characters at hplain ⊢
    induction characters with
    | nil => exact .close rest
    | cons c characters ih =>
      obtain ⟨⟨hquote, hslash, hcontrol⟩, hplain⟩ := List.forall_mem_cons.1 hplain
      exact .plain hquote hslash hcontrol (ih hplain)

end DesignTokens.Json

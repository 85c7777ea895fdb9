import DesignTokens.Number.Layout
import DesignTokens.Proofs.Number.ReadBack
import DesignTokens.Proofs.Value.Grammar
import DesignTokens.Value.Encode
import Mathlib.Data.List.Basic

/-!
# The numbers of JSON texts

The text of a number reads as it (`number?_encode`). For an integer these are its digits. The text
of a double lays out the digits of its shortest decimal: in front of the point, behind it, on both
sides, or with an exponent. Each layout spells this decimal or one with more zeros, so it reads
back (`readsBack_shortest`).
-/

set_option autoImplicit false

namespace DesignTokens.Json

open Binary64

/-! ### Digits -/

/-- Reading digits behind a number that was read before is the value of all digits. -/
theorem appendDigits?_eq {digits : List Char} (h : ∀ c ∈ digits, c.isDigit = true) (high : Nat) :
    appendDigits? 10 high digits = some (Nat.ofDigitChars 10 digits high) := by
  induction digits generalizing high with
  | nil => rfl
  | cons c digits ih =>
    obtain ⟨hc, hdigits⟩ := List.forall_mem_cons.1 h
    have hrange : '0' ≤ c ∧ c ≤ '9' := by simpa [Char.isDigit, Char.le_def] using hc
    have hbound : c.toNat - 48 < 10 := by
      have := (Char.isDigit_iff_toNat.1 hc).2
      simp at this
      omega
    rw [appendDigits?, digitValue?, if_pos hrange]
    dsimp only
    rw [if_pos hbound, ih hdigits, Nat.ofDigitChars_cons, Nat.mul_comm high]
    rfl

/-- Digits are read as the number they write. -/
theorem readDigits?_eq {digits : List Char} (hne : digits ≠ [])
    (h : ∀ c ∈ digits, c.isDigit = true) :
    readDigits? 10 digits = some (Nat.ofDigitChars 10 digits 0) := by
  obtain ⟨c, digits, rfl⟩ := List.exists_cons_of_ne_nil hne
  exact appendDigits?_eq h 0

/-- The decimal form of a number consists of digits. -/
theorem isDigit_of_mem_digitsOf {n : Nat} {c : Char} (h : c ∈ digitsOf n) : c.isDigit = true :=
  Nat.isDigit_of_mem_toDigits (by decide) (by decide) h

/-- The decimal form of a number has at least one digit. -/
theorem digitsOf_ne_nil (n : Nat) : digitsOf n ≠ [] :=
  Nat.toDigits_ne_nil

/-- No zero stands in front of the digits of a number but zero. -/
theorem head?_digitsOf {n : Nat} (h : n ≠ 0) : (digitsOf n).head? ≠ some '0' := by
  induction n using Nat.strongRecOn with
  | ind n ih =>
    rcases Nat.lt_or_ge n 10 with hlt | hge
    · rw [digitsOf, Nat.toDigits_of_lt_base hlt]
      simpa using h
    · rw [digitsOf, Nat.toDigits_of_base_le (by decide) hge,
        List.head?_append_of_ne_nil _ Nat.toDigits_ne_nil]
      exact ih (n / 10) (by omega) (by omega)

/-- A text of digits is a whole part unless a zero stands in front of others. -/
theorem whole?_eq {digits : List Char} (hne : digits ≠ [])
    (h : ∀ c ∈ digits, c.isDigit = true) (hzero : digits.head? ≠ some '0' ∨ digits = ['0']) :
    whole? digits = some (Nat.ofDigitChars 10 digits 0) := by
  rw [whole?, if_neg, readDigits?_eq hne h]
  exact fun hleading => hzero.elim (fun hhead => hhead hleading.1) hleading.2

/-- The decimal form of a whole number is read back as that number. -/
theorem whole?_digitsOf (n : Nat) : whole? (digitsOf n) = some n := by
  rw [whole?_eq (digitsOf_ne_nil n) fun _ => isDigit_of_mem_digitsOf]
  · exact congrArg some Nat.ofDigitChars_ten_toDigits
  · rcases Nat.eq_zero_or_pos n with rfl | hpos
    · exact .inr rfl
    · exact .inl (head?_digitsOf (Nat.ne_of_gt hpos))

/-! ### Tokens -/

/-- The point and the digits behind it, if there are any. -/
def pointText : List Char → List Char
  | [] => []
  | digits => '.' :: digits

/-- The mark of a power of ten and its digits, if there is one. -/
def markText : Option Int → List Char
  | none => []
  | some power => 'e' :: ((if power < 0 then ['-'] else ['+']) ++ digitsOf power.natAbs)

/-- The mark of a power is read back as that power, and no mark as zero. -/
theorem power?_markText (power : Option Int) : power? (markText power) = some (power.getD 0) := by
  cases power with
  | none => rfl
  | some power =>
    have hdigits : readDigits? 10 (digitsOf power.natAbs) = some power.natAbs := by
      rw [readDigits?_eq (digitsOf_ne_nil _) fun _ => isDigit_of_mem_digitsOf]
      exact congrArg some Nat.ofDigitChars_ten_toDigits
    rw [markText]
    split
    · rw [List.singleton_append, power?, hdigits, Option.map_some, Option.getD_some]
      congr 1
      omega
    · rw [List.singleton_append, power?, hdigits, Option.map_some, Option.getD_some]
      congr 1
      exact Int.natAbs_of_nonneg (by omega)

/-- The digits behind a point are read back as they are. -/
theorem fraction?_pointText {fraction : List Char} (h : ∀ c ∈ fraction, c.isDigit = true) :
    fraction? (pointText fraction) = some fraction := by
  cases fraction with
  | nil => rfl
  | cons c digits => rw [pointText, fraction?, readDigits?_eq (by simp) h, Option.map_some]; simp

/-- A prefix is taken up to the first character that does not belong to it. -/
theorem span_append {p : Char → Bool} (front back : List Char) (hfront : ∀ c ∈ front, p c = true)
    (hback : ∀ c ∈ back.head?, p c = false) :
    (front ++ back).takeWhile p = front ∧ (front ++ back).dropWhile p = back := by
  have hstop : back.takeWhile p = [] ∧ back.dropWhile p = back := by
    cases back with
    | nil => exact ⟨rfl, rfl⟩
    | cons c back => simp [hback c rfl]
  rw [List.takeWhile_append_of_pos hfront, List.dropWhile_append_of_pos hfront, hstop.1, hstop.2,
    List.append_nil]
  exact ⟨rfl, rfl⟩

/-- A digit is none of the other characters of a numeral. -/
theorem ne_of_isDigit {c other : Char} (h : c.isDigit = true) (hother : other.isDigit = false) :
    c ≠ other := by
  rintro rfl
  simp [h] at hother

/-- A fraction that is not empty has a point in front. -/
theorem pointText_of_ne_nil {fraction : List Char} (h : fraction ≠ []) :
    pointText fraction = '.' :: fraction := by
  cases fraction with
  | nil => exact absurd rfl h
  | cons => rfl

/-- There is nothing in it but the point and the digits. -/
theorem mem_pointText {fraction : List Char} {c : Char} (h : c ∈ pointText fraction) :
    c = '.' ∨ c ∈ fraction := by
  cases fraction with
  | nil => cases h
  | cons first digits => exact List.mem_cons.1 h

/-- What stands for the digits behind the point begins with it, if with anything. -/
theorem head?_pointText {fraction : List Char} : ∀ c ∈ (pointText fraction).head?, c = '.' := by
  cases fraction <;> simp [pointText]

/-- The mark of a power begins with its letter, if there is one. -/
theorem head?_markText {power : Option Int} : ∀ c ∈ (markText power).head?, c = 'e' := by
  cases power <;> simp [markText]

section
variable (negative : Bool) {whole fraction : List Char} {power : Option Int}

/-- The parts of a text are found again. Digits are followed by a point or a mark, or by nothing, so
each part ends where the next one begins. -/
theorem unsigned?_eq (hwhole : ∀ c ∈ whole, c.isDigit = true)
    (hfraction : ∀ c ∈ fraction, c.isDigit = true) :
    unsigned? negative (whole ++ (pointText fraction ++ markText power)) = (do
      let n ← whole? whole
      if (pointText fraction).isEmpty && (markText power).isEmpty then
        return .integer (if negative then -n else n)
      let digits ← readDigits? 10 (whole ++ fraction)
      let x ← Binary64.ofDecimal? negative digits (power.getD 0 - fraction.length)
      return .float x) := by
  have hmantissa : ∀ c ∈ whole ++ pointText fraction, isMantissa c = true := by
    have hdigit {c : Char} (hc : c.isDigit = true) : isMantissa c = true := by
      simp [isMantissa, ne_of_isDigit hc]
    intro c hc
    rcases List.mem_append.1 hc with hc | hc
    · exact hdigit (hwhole c hc)
    · rcases mem_pointText hc with rfl | hc
      · rfl
      · exact hdigit (hfraction c hc)
  have hmark := span_append (whole ++ pointText fraction) (markText power) hmantissa
    fun c hc => by rw [head?_markText c hc]; rfl
  have hpoint := span_append whole (pointText fraction) hwhole
    fun c hc => by rw [head?_pointText c hc]; rfl
  rw [List.append_assoc] at hmark
  simp only [unsigned?, hmark, hpoint, fraction?_pointText hfraction, power?_markText]
  rfl

/-- A whole number is read back with the sign that was in front of it. -/
theorem unsigned?_whole (n : Nat) :
    unsigned? negative (digitsOf n) = some (.integer (if negative then -n else n)) := by
  have h := @unsigned?_eq negative (digitsOf n) [] none (fun _ => isDigit_of_mem_digitsOf) (by simp)
  simpa [pointText, markText, whole?_digitsOf] using h

end

/-- The digits of a number with a point or a power of ten: those in front of the point, of which a
zero is the first only if it is the only one, those behind it, and the power. -/
structure Numeral where
  whole : List Char
  fraction : List Char
  power : Option Int
  ne_nil : whole ≠ []
  isDigit : ∀ c ∈ whole ++ fraction, c.isDigit = true
  leading : whole.head? ≠ some '0' ∨ whole = ['0']
  isFloat : fraction ≠ [] ∨ power.isSome = true

namespace Numeral

variable (numeral : Numeral)

/-- The text. -/
def text : List Char :=
  numeral.whole ++ (pointText numeral.fraction ++ markText numeral.power)

/-- The number of all digits. -/
def digits : Nat :=
  Nat.ofDigitChars 10 (numeral.whole ++ numeral.fraction) 0

/-- The power of ten that the digits are multiplied with. -/
def exponent : Int :=
  numeral.power.getD 0 - numeral.fraction.length

/-- A numeral reads as the double nearest to what its digits say, wherever the point stands. The
digits behind the point are taken off the exponent. -/
theorem unsigned?_text (negative : Bool) {x : Binary64}
    (hx : ofDecimal? negative numeral.digits numeral.exponent = some x) :
    unsigned? negative numeral.text = some (.float x) := by
  have hwhole : ∀ c ∈ numeral.whole, c.isDigit = true :=
    fun c hc => numeral.isDigit c (List.mem_append_left _ hc)
  have hfraction : ∀ c ∈ numeral.fraction, c.isDigit = true :=
    fun c hc => numeral.isDigit c (List.mem_append_right _ hc)
  have hdigits : readDigits? 10 (numeral.whole ++ numeral.fraction) = some numeral.digits :=
    readDigits?_eq (by simp [numeral.ne_nil]) numeral.isDigit
  have hparts : ((pointText numeral.fraction).isEmpty && (markText numeral.power).isEmpty) =
      false := by
    rcases numeral.isFloat with hsome | hsome
    · obtain ⟨c, digits, hcons⟩ := List.exists_cons_of_ne_nil hsome
      rw [hcons]
      rfl
    · obtain ⟨power, hpower⟩ := Option.isSome_iff_exists.1 hsome
      rw [hpower, markText, List.isEmpty_cons, Bool.and_false]
  rw [text, unsigned?_eq negative hwhole hfraction, whole?_eq numeral.ne_nil hwhole numeral.leading,
    hdigits, hparts]
  rw [exponent] at hx
  simp [hx]

/-- The numeral says this decimal. It may have zeros behind the digits. -/
def Says (n : Nat) (exponent : Int) : Prop :=
  ∃ zeros : Nat, numeral.digits = n * 10 ^ zeros ∧ numeral.exponent = exponent - zeros

/-- A numeral that says a decimal which reads back is read as the number. -/
theorem Says.unsigned? {numeral : Numeral} {n : Nat} {exponent : Int}
    (h : numeral.Says n exponent) {x : Binary64} (hx : x.readsBack n exponent = true)
    (negative : Bool) :
    unsigned? negative numeral.text = some (.float { x with negative }) := by
  obtain ⟨zeros, hdigits, hexponent⟩ := h
  have hread : x.readsBack numeral.digits numeral.exponent = true := by
    have hzeros := x.readsBack_mul_pow n zeros (exponent - zeros)
    rw [Int.sub_add_cancel] at hzeros
    rw [hdigits, hexponent, hzeros]
    exact hx
  exact numeral.unsigned?_text negative (x.ofDecimal?_of_readsBack hread negative)

end Numeral

/-! ### The layouts of a double -/

/-- The digits are those of a number, without a zero in front. -/
structure Writes (n : Nat) (digits : List Char) : Prop where
  ne_nil : digits ≠ []
  isDigit : ∀ c ∈ digits, c.isDigit = true
  leading : digits.head? ≠ some '0'
  value : Nat.ofDigitChars 10 digits 0 = n

/-- The decimal form writes its number without leading zeros. -/
theorem writes_digitsOf {n : Nat} (hn : n ≠ 0) : Writes n (digitsOf n) where
  ne_nil := digitsOf_ne_nil n
  isDigit := fun _ => isDigit_of_mem_digitsOf
  leading := head?_digitsOf hn
  value := Nat.ofDigitChars_ten_toDigits

/-- The text is a numeral that says this decimal. -/
def Spells (n : Nat) (exponent : Int) (text : List Char) : Prop :=
  ∃ numeral : Numeral, numeral.Says n exponent ∧ numeral.text = text

/-- Zeros are digits. -/
theorem isDigit_of_mem_replicate (count : Nat) :
    ∀ c ∈ List.replicate count '0', c.isDigit = true := by
  intro c hc
  rw [List.eq_of_mem_replicate hc]
  rfl

namespace Writes

variable {n : Nat} {digits : List Char} (h : Writes n digits)
include h

/-- A whole number gets a zero behind its point. -/
theorem spells_whole (zeros : Nat) :
    Spells n zeros (digits ++ List.replicate zeros '0' ++ ['.', '0']) := by
  refine ⟨⟨digits ++ List.replicate zeros '0', ['0'], none, by simp [h.ne_nil], ?_, ?_, by simp⟩,
    ⟨zeros + 1, ?_, ?_⟩, rfl⟩
  · simp only [List.forall_mem_append]
    exact ⟨⟨h.isDigit, isDigit_of_mem_replicate zeros⟩, isDigit_of_mem_replicate 1⟩
  · rw [List.head?_append_of_ne_nil _ h.ne_nil]
    exact .inl h.leading
  · have hzero : Nat.ofDigitChars 10 ['0'] (10 ^ zeros * n) = 10 * (10 ^ zeros * n) := by
      simp [Nat.ofDigitChars_cons]
    simp only [Numeral.digits, Nat.ofDigitChars_append, h.value, Nat.ofDigitChars_replicate_zero]
    rw [hzero, Nat.pow_succ]
    ring
  · simp [Numeral.exponent]

/-- A fraction below one begins with a zero. -/
theorem spells_fraction {exponent : Int} (hle : digits.length + exponent ≤ 0) :
    Spells n exponent
      ('0' :: '.' :: (List.replicate (-(digits.length + exponent)).toNat '0' ++ digits)) := by
  refine ⟨⟨['0'], List.replicate (-(digits.length + exponent)).toNat '0' ++ digits, none, by simp,
    ?_, .inr rfl, by simp [h.ne_nil]⟩, ⟨0, ?_, ?_⟩, ?_⟩
  · simp only [List.forall_mem_append]
    exact ⟨isDigit_of_mem_replicate 1, isDigit_of_mem_replicate _, h.isDigit⟩
  · rw [Numeral.digits, Nat.ofDigitChars_append, Nat.ofDigitChars_append,
      Nat.ofDigitChars_replicate_zero]
    simp [Nat.ofDigitChars_cons, h.value]
  · simp [Numeral.exponent]
    omega
  · rw [Numeral.text, pointText_of_ne_nil (by simp [h.ne_nil])]
    simp [markText]

/-- The point may stand between the digits. Those behind it lower the exponent by their number. -/
theorem spells_between {count : Nat} (hpos : 0 < count) (hlt : count < digits.length) :
    Spells n (count - digits.length) (digits.take count ++ '.' :: digits.drop count) := by
  have hfront : digits.take count ≠ [] := by
    rw [ne_eq, List.take_eq_nil_iff, not_or]
    exact ⟨Nat.ne_of_gt hpos, h.ne_nil⟩
  have hbehind : digits.drop count ≠ [] := by
    rw [ne_eq, List.drop_eq_nil_iff]
    omega
  refine ⟨⟨digits.take count, digits.drop count, none, hfront, ?_, .inl ?_, .inl hbehind⟩,
    ⟨0, ?_, ?_⟩, ?_⟩
  · rw [List.take_append_drop]
    exact h.isDigit
  · rw [List.head?_take, if_neg (Nat.ne_of_gt hpos)]
    exact h.leading
  · rw [Numeral.digits, List.take_append_drop]
    simpa using h.value
  · simp [Numeral.exponent]
    omega
  · rw [Numeral.text, pointText_of_ne_nil hbehind]
    simp [markText]

/-- Digits with a point and at least one digit behind it. Depending on the exponent the point stands
behind the digits, between them or in front of them, with zeros to fill in. -/
theorem spells_pointed (exponent : Int) :
    Spells n exponent (pointed digits (digits.length + exponent)) := by
  have hlength := List.length_pos_iff.2 h.ne_nil
  rw [pointed, positional]
  split_ifs with hwhole hsmall hlong hsmall hlong
  · omega
  · obtain ⟨zeros, rfl⟩ := Int.eq_ofNat_of_zero_le (show 0 ≤ exponent by omega)
    rw [show ((digits.length : Int) + zeros).toNat - digits.length = zeros by omega]
    exact h.spells_whole zeros
  · omega
  · exact h.spells_fraction hsmall
  · omega
  · obtain ⟨count, hcount⟩ := Int.eq_ofNat_of_zero_le (show 0 ≤ digits.length + exponent by omega)
    rw [hcount, Int.toNat_natCast, show exponent = count - digits.length by omega]
    exact h.spells_between (by omega) (by omega)

/-- One digit in front of the point, and a power of ten. -/
theorem spells_scientific (exponent : Int) :
    Spells n exponent (scientific ['+'] digits (digits.length + exponent - 1)) := by
  obtain ⟨hne, hdigit, hleading, hvalue⟩ := h
  obtain ⟨first, rest, rfl⟩ := List.exists_cons_of_ne_nil hne
  refine ⟨⟨[first], rest, some (((first :: rest).length : Int) + exponent - 1), by simp, hdigit,
    .inl hleading, .inr rfl⟩, ⟨0, ?_, ?_⟩, ?_⟩
  · rw [Nat.pow_zero, Nat.mul_one]
    exact hvalue
  · simp [Numeral.exponent]
    omega
  · cases rest <;> rfl

end Writes

/-- The text of a double is its sign and a numeral that reads as the double. -/
theorem exists_numeral_exact (x : Binary64) :
    ∃ numeral : Numeral, x.exact = x.signText ++ numeral.text ∧
      ∀ negative, unsigned? negative numeral.text = some (.float { x with negative }) := by
  cases hzero : x.isZero with
  | true =>
    let numeral : Numeral :=
      ⟨['0'], ['0'], none, by decide, by simp [Char.isDigit], .inr rfl, .inl (by decide)⟩
    have hsays : numeral.Says 0 (-1) := ⟨0, rfl, rfl⟩
    refine ⟨numeral, ?_, hsays.unsigned? (readsBack_zero hzero _)⟩
    rw [exact, hzero]
    rfl
  | false =>
    have hread := readsBack_shortest hzero .toEven
    have hwrites := writes_digitsOf (ne_zero_of_readsBack hzero hread)
    rw [exact, hzero, if_neg Bool.false_ne_true]
    generalize x.shortest .toEven = decimal at *
    split
    · obtain ⟨numeral, hsays, htext⟩ := hwrites.spells_pointed decimal.exponent
      exact ⟨numeral, by rw [htext], hsays.unsigned? hread⟩
    · obtain ⟨numeral, hsays, htext⟩ := hwrites.spells_scientific decimal.exponent
      exact ⟨numeral, by rw [htext], hsays.unsigned? hread⟩

/-! ### Numbers -/

/-- A text that begins with a digit has no sign. -/
theorem number?_of_head {text : List Char} (hne : text ≠ [])
    (h : ∀ c ∈ text.head?, c.isDigit = true) : number? text = unsigned? false text := by
  unfold number?
  split
  · exact absurd (h '-' rfl) (by decide)
  · rfl

/-- A numeral begins with a digit. -/
theorem Numeral.text_head (numeral : Numeral) :
    numeral.text ≠ [] ∧ ∀ c ∈ numeral.text.head?, c.isDigit = true := by
  obtain ⟨c, digits, hcons⟩ := List.exists_cons_of_ne_nil numeral.ne_nil
  have hdigit := numeral.isDigit c (by simp [hcons])
  rw [Numeral.text, hcons]
  simpa using hdigit

/-- A number is read from its text. For an integer the digits are counted back up, and for a double
the shortest decimal that reads back was written. -/
theorem number?_encode (n : Number) : number? n.encode = some n := by
  cases n with
  | integer i =>
    have hread := fun negative => unsigned?_whole negative i.natAbs
    rw [Number.encode, integerText]
    -- a sign is written for negative integers only
    split
    case isTrue hneg =>
      rw [number?, ← digitsOf, hread, if_pos rfl]
      congr 2
      omega
    case isFalse hpos =>
      have hhead : ∀ c ∈ (digitsOf i.natAbs).head?, c.isDigit = true :=
        fun c hc => isDigit_of_mem_digitsOf (List.mem_of_mem_head? hc)
      rw [← digitsOf, number?_of_head (digitsOf_ne_nil _) hhead, hread, if_neg Bool.false_ne_true]
      congr 2
      omega
  | float x =>
    obtain ⟨numeral, htext, hread⟩ := exists_numeral_exact x
    rw [Number.encode, htext, signText]
    cases hsign : x.negative with
    | true =>
      rw [if_pos rfl, List.singleton_append, number?, hread, ← hsign]
    | false =>
      obtain ⟨hne, hhead⟩ := numeral.text_head
      rw [if_neg Bool.false_ne_true, List.nil_append, number?_of_head hne hhead, hread, ← hsign]

/-- A digit is one of the characters of numerals. -/
theorem isNumeral_of_isDigit {c : Char} (h : c.isDigit = true) : isNumeral c = true := by
  simp [isNumeral, h]

/-- All characters of a decimal form are ones of numerals. -/
theorem isNumeral_of_mem_digitsOf {n : Nat} : ∀ c ∈ digitsOf n, isNumeral c = true :=
  fun _ hc => isNumeral_of_isDigit (isDigit_of_mem_digitsOf hc)

/-- All characters of the mark of a power are ones of numerals. -/
theorem isNumeral_of_mem_markText {power : Option Int} :
    ∀ c ∈ markText power, isNumeral c = true := by
  cases power with
  | none => nofun
  | some power =>
    rw [markText, List.forall_mem_cons, List.forall_mem_append]
    refine ⟨rfl, ?_, isNumeral_of_mem_digitsOf⟩
    split <;> simp [isNumeral]

/-- All characters of a whole numeral are ones of numerals. -/
theorem Numeral.isNumeral_of_mem_text (numeral : Numeral) :
    ∀ c ∈ numeral.text, isNumeral c = true := by
  rw [Numeral.text, List.forall_mem_append, List.forall_mem_append]
  refine ⟨?_, ?_, isNumeral_of_mem_markText⟩
  · exact fun c hc => isNumeral_of_isDigit (numeral.isDigit c (List.mem_append_left _ hc))
  · intro c hc
    rcases mem_pointText hc with rfl | hc
    · rfl
    · exact isNumeral_of_isDigit (numeral.isDigit c (List.mem_append_right _ hc))

/-- A number is spelled in the characters of numbers. -/
theorem isNumeral_of_mem_encode {n : Number} : ∀ c ∈ n.encode, isNumeral c = true := by
  cases n with
  | integer i =>
    rw [Number.encode, integerText]
    split
    · exact List.forall_mem_cons.2 ⟨rfl, isNumeral_of_mem_digitsOf⟩
    · exact isNumeral_of_mem_digitsOf
  | float x =>
    obtain ⟨numeral, htext, -⟩ := exists_numeral_exact x
    rw [Number.encode, htext, List.forall_mem_append, signText]
    refine ⟨?_, numeral.isNumeral_of_mem_text⟩
    split <;> simp [isNumeral]

end DesignTokens.Json

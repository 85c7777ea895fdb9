import DesignTokens.Proofs.Catalog.Pairing
import DesignTokens.Proofs.Text.ByteOrder

/-!
# Combining light and dark leaves

What `Color.combine` makes of two lists of leaves, in which names may be repeated. `Combined` is the
whole result: one colour for each light leaf (`LightColor`), one for each name that only dark leaves
have (`DarkColor`), ordered by name without a change in the order of one name. Of several dark
leaves of a name the last counts (`lastText?`), and only the first light leaf of its name takes it.

`Fault` says which name a failure tells: that of the first light leaf that is no text or, if all
light leaves are texts, the least name of dark leaves only whose last leaf is no text.

The main statement is `combine_spec`: exactly the lists of texts are combined, every failure is such
a fault, and the result is the only list that is `Combined`. It follows the two loops: `pair` over
the light leaves, where the table of dark leaves loses the names that have been met
(`pair_getElem`), and the list of what is left, which ascends by name.
-/

set_option autoImplicit false

namespace DesignTokens.Color

/-! ### What is combined -/

/-- The text of the last leaf of a name. -/
def lastText? (name : String) (leaves : List TokenValue) : Option String :=
  (lastNamed? name leaves).bind (·.value.string?)

/-- A name of dark leaves, and of no light one. -/
def DarkOnly (any dark : List TokenValue) (name : String) : Prop :=
  name ∈ dark.map (·.name) ∧ name ∉ any.map (·.name)

/-- The colour of a light leaf behind others. It has a dark appearance if it is the first of its
name and the last dark leaf of this name is another text. -/
structure LightColor (dark before : List TokenValue) (leaf : TokenValue) (hex : String)
    (color : Color) : Prop where
  text : leaf.entry.value = .string hex
  name : color.name = leaf.name
  any : color.any = appearance hex
  dark : ∀ members, color.dark = some members ↔
    ∃ other, members = appearance other ∧ leaf.name ∉ before.map (·.name) ∧
      lastText? leaf.name dark = some other ∧ other ≠ hex

/-- The colour of a name that only dark leaves have. -/
structure DarkColor (dark : List TokenValue) (hex : String) (color : Color) : Prop where
  text : lastText? color.name dark = some hex
  any : color.any = appearance hex
  dark : color.dark = none

/-- The colours of the light leaves, leaf by leaf, and of the names that only dark leaves have. -/
structure Matched (any dark : List TokenValue) (lights singles : List Color) : Prop where
  length : lights.length = any.length
  light : ∀ i (h : i < any.length), ∃ hex color,
    lights[i]? = some color ∧ LightColor dark (any.take i) any[i] hex color
  ascending : singles.Pairwise fun a b => Text.bytes a.name < Text.bytes b.name
  names : ∀ name, name ∈ singles.map (·.name) ↔ DarkOnly any dark name
  single : ∀ color ∈ singles, ∃ hex, DarkColor dark hex color

/-- All colours, ordered by name. Colours of one name stand in the order of their leaves. -/
def Combined (any dark : List TokenValue) (colors : List Color) : Prop :=
  ∃ lights singles, Matched any dark lights singles ∧ colors.Perm (lights ++ singles) ∧
    (colors.Pairwise fun a b => Text.bytes a.name ≤ Text.bytes b.name) ∧
    ∀ name, colors.filter (fun color => color.name = name) =
      (lights ++ singles).filter fun color => color.name = name

/-- Every light leaf is a text, and so is the last leaf of every name of dark leaves only. -/
structure AllTexts (any dark : List TokenValue) : Prop where
  light : ∀ leaf ∈ any, ∃ hex, leaf.entry.value = .string hex
  single : ∀ name, DarkOnly any dark name → ∃ hex, lastText? name dark = some hex

/-- The name that a failure tells. -/
inductive Fault (any dark : List TokenValue) : String → Prop
  | light {before after : List TokenValue} {leaf : TokenValue}
      (split : any = before ++ leaf :: after)
      (texts : ∀ other ∈ before, ∃ hex, other.entry.value = .string hex)
      (fault : ∀ hex, leaf.entry.value ≠ .string hex) : Fault any dark leaf.name
  | single {name : String} (texts : ∀ leaf ∈ any, ∃ hex, leaf.entry.value = .string hex)
      (only : DarkOnly any dark name) (fault : lastText? name dark = none)
      (least : ∀ other, DarkOnly any dark other → lastText? other dark = none →
        Text.bytes name ≤ Text.bytes other) : Fault any dark name

/-- A value has a text exactly if it is a string. -/
theorem string?_eq_some_iff {value : Value} {text : String} :
    value.string? = some text ↔ value = .string text := by
  cases value <;> simp [Value.string?]

/-- A value of any other form has no text, not even one that it is shown as. -/
theorem string?_eq_none_iff {value : Value} :
    value.string? = none ↔ ∀ text, value ≠ .string text := by
  rw [Option.eq_none_iff_forall_ne_some]
  simp only [ne_eq, string?_eq_some_iff]

/-- A colour can be made exactly if the light leaf holds a text; a dark leaf without one is passed
over. -/
theorem exists_ofEntries_iff {name : String} {any : Entry} {dark : Option Entry} :
    (∃ color, ofEntries name any dark = .ok color) ↔ ∃ hex, any.value = .string hex := by
  simp only [ofEntries_eq_ok_iff, string?_eq_some_iff]
  exact ⟨fun ⟨_, hex, htext, _⟩ => ⟨hex, htext⟩, fun ⟨hex, htext⟩ => ⟨_, hex, htext, rfl⟩⟩

/-- It cannot be made exactly if the light leaf holds none, and the problem names the colour. -/
theorem ofEntries_eq_error_iff {name : String} {any : Entry} {dark : Option Entry}
    {problem : Problem} :
    ofEntries name any dark = .error problem ↔
      (∀ hex, any.value ≠ .string hex) ∧ problem = .missingColorValue name := by
  rw [← string?_eq_none_iff, ofEntries]
  cases any.value.string? with
  | none =>
    rw [Except.error.injEq]
    exact ⟨fun h => ⟨rfl, h.symm⟩, fun h => h.2.symm⟩
  | some hex => exact ⟨nofun, nofun⟩

/-! ### The light leaves -/

section
variable {table rest : List (String × Entry)} {tokens : List TokenValue} {colors : List Color}

/-- The colour of each light leaf. The table has an entry for it if it is the first of its name. -/
theorem pair_getElem (h : pair table tokens = .ok (colors, rest)) :
    colors.length = tokens.length ∧
      ∀ i (hi : i < tokens.length), ∃ color, colors[i]? = some color ∧
        ofEntries tokens[i].name tokens[i].entry
          (if tokens[i].name ∈ (tokens.take i).map (·.name) then none
            else table.lookup tokens[i].name) = .ok color := by
  -- for any table, since each leaf takes its name out of it
  induction tokens generalizing table colors with
  | nil =>
    cases h
    exact ⟨rfl, nofun⟩
  | cons token tokens ih =>
    obtain ⟨color, later, hcolor, hlater, rfl⟩ := pair_cons_eq_ok_iff.1 h
    obtain ⟨hlength, hcolors⟩ := ih hlater
    refine ⟨by simp [hlength], fun i hi => ?_⟩
    cases i with
    | zero => exact ⟨color, rfl, by simpa using hcolor⟩
    | succ i =>
      have hi' : i < tokens.length := by simpa using hi
      obtain ⟨found, hfound, hentries⟩ := hcolors i hi'
      refine ⟨found, hfound, ?_⟩
      -- the leaf in front has taken the entry of its name
      simp only [List.getElem_cons_succ, List.take_succ_cons, List.map_cons, List.mem_cons]
      by_cases hname : tokens[i].name = token.name
      · rw [hname, Keyed.lookup_erase_self, ite_self] at hentries
        rw [if_pos (.inl hname), hname]
        exact hentries
      · rw [Keyed.lookup_erase_of_ne hname] at hentries
        simpa [hname] using hentries

/-- Pairing fails with the first light leaf that is no text. Dark leaves are not to blame: one that
is no text pairs as if it were missing. -/
theorem pair_eq_error_iff {problem : Problem} :
    pair table tokens = .error problem ↔
      ∃ before leaf after, tokens = before ++ leaf :: after ∧
        (∀ other ∈ before, ∃ hex, other.entry.value = .string hex) ∧
        (∀ hex, leaf.entry.value ≠ .string hex) ∧ problem = .missingColorValue leaf.name := by
  induction tokens generalizing table with
  | nil =>
    refine ⟨nofun, ?_⟩
    rintro ⟨before, leaf, after, hsplit, -⟩
    simp at hsplit
  | cons token tokens ih =>
    -- pairing fails at the first leaf or behind it
    rw [pair, Result.bind_eq_error_iff, ofEntries_eq_error_iff]
    simp only [Result.bind_eq_error_iff, ih, pure, Except.pure, reduceCtorEq, and_false,
      exists_false, or_false]
    constructor
    · rintro (⟨hfault, rfl⟩ | ⟨color, hcolor, before, leaf, after, rfl, htexts, hfault, rfl⟩)
      · exact ⟨[], token, tokens, rfl, List.forall_mem_nil _, hfault, rfl⟩
      · have htext := exists_ofEntries_iff.1 ⟨color, hcolor⟩
        exact ⟨token :: before, leaf, after, rfl, List.forall_mem_cons.2 ⟨htext, htexts⟩, hfault,
          rfl⟩
    · rintro ⟨before, leaf, after, hsplit, htexts, hfault, rfl⟩
      cases before with
      | nil =>
        obtain ⟨rfl, rfl⟩ := List.cons.inj hsplit
        exact .inl ⟨hfault, rfl⟩
      | cons other before =>
        obtain ⟨rfl, rfl⟩ := List.cons.inj hsplit
        obtain ⟨htext, htexts⟩ := List.forall_mem_cons.1 htexts
        obtain ⟨color, hcolor⟩ := exists_ofEntries_iff.2 htext
        exact .inr ⟨color, hcolor, before, leaf, after, rfl, htexts, hfault, rfl⟩

/-- Pairing succeeds exactly for light leaves that are texts, since the only way to fail is to meet
one that is none. -/
theorem exists_pair_iff :
    (∃ colors rest, pair table tokens = .ok (colors, rest)) ↔
      ∀ leaf ∈ tokens, ∃ hex, leaf.entry.value = .string hex := by
  constructor
  · rintro ⟨colors, rest, h⟩ leaf hleaf
    obtain ⟨i, hi, rfl⟩ := List.mem_iff_getElem.1 hleaf
    obtain ⟨color, -, hcolor⟩ := (pair_getElem h).2 i hi
    exact exists_ofEntries_iff.1 ⟨color, hcolor⟩
  · intro htexts
    cases h : pair table tokens with
    | ok result => exact ⟨result.1, result.2, rfl⟩
    | error problem =>
      obtain ⟨before, leaf, after, rfl, -, hfault, -⟩ := pair_eq_error_iff.1 h
      obtain ⟨hex, htext⟩ := htexts leaf (by simp)
      exact absurd htext (hfault hex)

end

/-- The colour of a light leaf behind others. It has the last dark leaf of its name if no light leaf
before it has taken that one, and it is dark only where that leaf is another text. -/
theorem lightColor_of_ofEntries {dark before : List TokenValue} {leaf : TokenValue} {color : Color}
    (h : ofEntries leaf.name leaf.entry
      (if leaf.name ∈ before.map (·.name) then none else lastNamed? leaf.name dark) = .ok color) :
    ∃ hex, LightColor dark before leaf hex color := by
  obtain ⟨hex, htext, rfl⟩ := ofEntries_eq_ok_iff.1 h
  refine ⟨hex, string?_eq_some_iff.1 htext, rfl, rfl, fun members => ?_⟩
  show (darkHex? hex _).map appearance = some members ↔ _
  rw [Option.map_eq_some_iff]
  split
  · -- the leaf is not the first of its name
    rename_i hbefore
    constructor
    · rintro ⟨other, hother, -⟩
      cases hother
    · rintro ⟨other, -, hfirst, -⟩
      exact absurd hbefore hfirst
  · rename_i hfirst
    simp only [darkHex?, Option.filter_eq_some_iff, decide_eq_true_eq, lastText?]
    constructor
    · rintro ⟨other, ⟨hlast, hne⟩, rfl⟩
      exact ⟨other, rfl, hfirst, hlast, hne⟩
    · rintro ⟨other, rfl, -, hlast, hne⟩
      exact ⟨other, ⟨hlast, hne⟩, rfl⟩

/-! ### The names of dark leaves only -/

section
variable {any dark : List TokenValue} {rest : List (String × Entry)} {lights singles : List Color}

/-- The names of the colours are the keys of what is left. -/
theorem names_of_singles
    (h : List.Forall₂ (fun pair color => ofEntries pair.1 pair.2 none = .ok color) rest singles) :
    singles.map (·.name) = rest.map (·.1) := by
  induction h with
  | nil => rfl
  | cons hcolor _ ih => rw [List.map_cons, List.map_cons, name_of_ofEntries hcolor, ih]

section
variable (h : pair (Keyed.ofList (dark.map fun leaf => (leaf.name, leaf.entry))) any =
  .ok (lights, rest))
include h

/-- The names that only the dark list has are those that are left when all light leaves have taken
theirs. -/
theorem darkOnly_iff_mem_rest {name : String} :
    DarkOnly any dark name ↔ ∃ entry, (name, entry) ∈ rest := by
  have hdark : name ∈ dark.map (·.name) ↔ ∃ entry, lastNamed? name dark = some entry := by
    rw [← Option.ne_none_iff_exists', ne_eq, lastNamed?_eq_none_iff, not_not]
  simp only [mem_rest_iff h, exists_and_left]
  rw [DarkOnly, hdark, and_comm]

/-- A leaf that is left is the last one of its name. -/
theorem lastText?_of_mem_rest {name : String} {entry : Entry} (hmem : (name, entry) ∈ rest) :
    lastText? name dark = entry.value.string? := by
  rw [lastText?, ((mem_rest_iff h).1 hmem).2]
  rfl

/-- What pairing leaves is matched: the light colours in order, and one colour for each name that is
left. -/
theorem matched_of_pair
    (hsingles : List.Forall₂ (fun pair color => ofEntries pair.1 pair.2 none = .ok color)
      rest singles) : Matched any dark lights singles := by
  obtain ⟨hlength, hlights⟩ := pair_getElem h
  have hnames := names_of_singles hsingles
  refine ⟨hlength, ?light, ?ascending, ?names, ?single⟩
  case light =>
    intro i hi
    obtain ⟨color, hcolor, hentries⟩ := hlights i hi
    rw [lookup_dark] at hentries
    obtain ⟨hex, hlight⟩ := lightColor_of_ofEntries hentries
    exact ⟨hex, color, hcolor, hlight⟩
  case ascending =>
    -- the table of dark leaves ascends, and so do the names that are left in it
    have hkeys := Keyed.pairwise_keys (pair_rest h (Keyed.ascending_ofList _)).1
    rw [← hnames, List.pairwise_map] at hkeys
    exact hkeys.imp fun hlt => (Text.lt_iff_bytes _ _).1 hlt
  case names =>
    intro name
    rw [hnames, darkOnly_iff_mem_rest h, List.mem_map]
    exact ⟨fun ⟨pair, hpair, hname⟩ => ⟨pair.2, hname ▸ hpair⟩, fun ⟨entry, hmem⟩ =>
      ⟨(name, entry), hmem, rfl⟩⟩
  case single =>
    intro color hmem
    obtain ⟨pair, hpair, hcolor⟩ := Result.exists_of_mem_right hsingles hmem
    obtain ⟨hex, htext, heq⟩ := ofEntries_eq_ok_iff.1 hcolor
    rw [← lastText?_of_mem_rest h hpair, ← name_of_ofEntries hcolor] at htext
    refine ⟨hex, htext, ?_, ?_⟩ <;> rw [heq] <;> rfl

/-- The names of dark leaves only fail with the least of them whose last leaf is no text. -/
theorem singles_eq_error_iff {problem : Problem} :
    (rest.mapM fun pair => ofEntries pair.1 pair.2 none) = .error problem ↔
      ∃ name, problem = .missingColorValue name ∧ DarkOnly any dark name ∧
        lastText? name dark = none ∧
        ∀ other, DarkOnly any dark other → lastText? other dark = none →
          Text.bytes name ≤ Text.bytes other := by
  have hrest := (pair_rest h (Keyed.ascending_ofList _)).1
  -- a leaf that is left becomes a colour if it is a text
  have htext : ∀ name entry, (name, entry) ∈ rest →
      ((∃ color, ofEntries name entry none = .ok color) ↔ lastText? name dark ≠ none) := by
    intro name entry hmem
    rw [exists_ofEntries_iff, lastText?_of_mem_rest h hmem, Option.ne_none_iff_exists']
    simp only [string?_eq_some_iff]
  rw [Result.mapM_eq_error_iff]
  constructor
  · rintro ⟨before, ⟨name, entry⟩, after, hsplit, hbefore, herror⟩
    obtain ⟨hfault, rfl⟩ := ofEntries_eq_error_iff.1 herror
    have hmem : (name, entry) ∈ rest := by simp [hsplit]
    refine ⟨name, rfl, (darkOnly_iff_mem_rest h).2 ⟨entry, hmem⟩, ?_, ?_⟩
    · rw [lastText?_of_mem_rest h hmem]
      exact string?_eq_none_iff.2 hfault
    · intro other hother hnone
      obtain ⟨found, hfound⟩ := (darkOnly_iff_mem_rest h).1 hother
      rw [← List.not_lt, ← Text.lt_iff_bytes]
      intro hlt
      -- the leaf of a lesser name stands in front, where all are texts
      rw [hsplit] at hrest hfound
      have hfront := Keyed.mem_front hrest hfound hlt
      have hmem' : (other, found) ∈ rest := by simp [hsplit, hfront]
      exact absurd hnone ((htext other found hmem').1 (hbefore _ hfront))
  · rintro ⟨name, rfl, honly, hnone, hleast⟩
    obtain ⟨entry, hmem⟩ := (darkOnly_iff_mem_rest h).1 honly
    obtain ⟨after, hsplit⟩ := Keyed.exists_append hrest hmem
    refine ⟨_, _, after, hsplit, ?_, ?_⟩
    · -- a fault in front would be one of a lesser name
      rintro ⟨other, found⟩ hbefore
      obtain ⟨hfound, hless⟩ := List.mem_filter.1 hbefore
      refine (htext other found hfound).2 fun hfault => ?_
      have hle := hleast other ((darkOnly_iff_mem_rest h).2 ⟨found, hfound⟩) hfault
      rw [← List.not_lt, ← Text.lt_iff_bytes] at hle
      exact hle (of_decide_eq_true hless)
    · rw [lastText?_of_mem_rest h hmem, string?_eq_none_iff] at hnone
      exact ofEntries_eq_error_iff.2 ⟨hnone, rfl⟩

end

/-! ### Results and failures -/

/-- A result is made of all colours. -/
theorem combined_of_combine {colors : List Color} (h : combine any dark = .ok colors) :
    Combined any dark colors := by
  obtain ⟨lights, rest, singles, hpair, hsingles, rfl⟩ := combine_eq_ok_iff.1 h
  refine ⟨lights, singles, matched_of_pair hpair hsingles, Stage.sortBy_perm _ _, ?_, ?_⟩
  · have hsorted := Stage.pairwise_sortBy Stage.nameLess_asymm Stage.nameLess_trans
      (lights ++ singles)
    exact hsorted.imp Stage.nameLess_eq_false_iff.1
  · intro name
    exact Stage.filter_sortBy (Stage.nameLess_of_names name) _

/-- If colours were put together, all leaves that count hold texts. -/
theorem Combined.allTexts {colors : List Color} (h : Combined any dark colors) :
    AllTexts any dark := by
  obtain ⟨lights, singles, hmatched, -⟩ := h
  constructor
  case light =>
    intro leaf hleaf
    obtain ⟨i, hi, rfl⟩ := List.mem_iff_getElem.1 hleaf
    obtain ⟨hex, color, -, hlight⟩ := hmatched.light i hi
    exact ⟨hex, hlight.text⟩
  case single =>
    intro name honly
    obtain ⟨color, hcolor, rfl⟩ := List.mem_map.1 ((hmatched.names name).2 honly)
    obtain ⟨hex, hdark⟩ := hmatched.single color hcolor
    exact ⟨hex, hdark.text⟩

/-- Putting colours together fails exactly with the name of a leaf at fault: the first light leaf
without a text, or the least name that only the dark list has and that has none there. -/
theorem combine_eq_error_iff {problem : Problem} :
    combine any dark = .error problem ↔
      ∃ name, problem = .missingColorValue name ∧ Fault any dark name := by
  rw [combine, Result.bind_eq_error_iff]
  simp only [Prod.exists, Result.bind_eq_error_iff, pure, Except.pure, reduceCtorEq, and_false,
    exists_false, or_false]
  constructor
  · rintro (hpair | ⟨lights, rest, hpair, hsingles⟩)
    · obtain ⟨before, leaf, after, hsplit, htexts, hfault, rfl⟩ := pair_eq_error_iff.1 hpair
      exact ⟨leaf.name, rfl, .light hsplit htexts hfault⟩
    · obtain ⟨name, rfl, honly, hnone, hleast⟩ := (singles_eq_error_iff hpair).1 hsingles
      exact ⟨name, rfl, .single (exists_pair_iff.1 ⟨lights, rest, hpair⟩) honly hnone hleast⟩
  · rintro ⟨name, rfl, hfault⟩
    cases hfault with
    | light hsplit htexts hfault =>
      exact .inl (pair_eq_error_iff.2 ⟨_, _, _, hsplit, htexts, hfault, rfl⟩)
    | single htexts honly hnone hleast =>
      obtain ⟨lights, rest, hpair⟩ := exists_pair_iff.2 htexts
      exact .inr ⟨lights, rest, hpair,
        (singles_eq_error_iff hpair).2 ⟨name, rfl, honly, hnone, hleast⟩⟩

/-- It succeeds exactly if all leaves that count hold texts: all light ones, and the last dark one
of each name that only the dark list has. -/
theorem exists_combine_iff : (∃ colors, combine any dark = .ok colors) ↔ AllTexts any dark := by
  constructor
  · rintro ⟨colors, h⟩
    exact (combined_of_combine h).allTexts
  · intro htexts
    cases h : combine any dark with
    | ok colors => exact ⟨colors, rfl⟩
    | error problem =>
      -- no leaf is at fault
      obtain ⟨name, -, hfault⟩ := combine_eq_error_iff.1 h
      cases hfault with
      | @light before after leaf hsplit _ hfault =>
        obtain ⟨hex, htext⟩ := htexts.light leaf (by simp [hsplit])
        exact absurd htext (hfault hex)
      | single _ honly hnone _ =>
        obtain ⟨hex, htext⟩ := htexts.single name honly
        rw [htext] at hnone
        cases hnone

/-! ### There is only one result -/

/-- A light leaf makes one colour only: its text, and which dark leaf it takes, are determined. -/
theorem LightColor.eq {before : List TokenValue} {leaf : TokenValue} {hex hex' : String}
    {color color' : Color} (h : LightColor dark before leaf hex color)
    (h' : LightColor dark before leaf hex' color') : color = color' := by
  have hhex : hex = hex' := Value.string.inj (h.text.symm.trans h'.text)
  subst hhex
  have hdark : color.dark = color'.dark :=
    Option.ext fun members => (h.dark members).trans (h'.dark members).symm
  cases color
  cases color'
  rw [Color.mk.injEq]
  exact ⟨h.name.trans h'.name.symm, h.any.trans h'.any.symm, hdark⟩

/-- A name that only the dark list has makes one colour only as well. -/
theorem DarkColor.eq {hex hex' : String} {color color' : Color} (hname : color.name = color'.name)
    (h : DarkColor dark hex color) (h' : DarkColor dark hex' color') : color = color' := by
  have hhex : hex = hex' := Option.some.inj (h.text.symm.trans (hname ▸ h'.text))
  subst hhex
  cases color
  cases color'
  rw [Color.mk.injEq]
  exact ⟨hname, h.any.trans h'.any.symm, h.dark.trans h'.dark.symm⟩

/-- The colours behind the light ones are those of the names that only the dark list has. -/
theorem Matched.mem_singles_iff (h : Matched any dark lights singles) (color : Color) :
    color ∈ singles ↔ DarkOnly any dark color.name ∧ ∃ hex, DarkColor dark hex color := by
  constructor
  · intro hmem
    exact ⟨(h.names color.name).1 (List.mem_map_of_mem hmem), h.single color hmem⟩
  · rintro ⟨honly, hex, hcolor⟩
    -- the name has a colour, and this is the only one that the name may have
    obtain ⟨found, hfound, hname⟩ := List.mem_map.1 ((h.names color.name).2 honly)
    obtain ⟨hex', hdark⟩ := h.single found hfound
    rwa [hcolor.eq hname.symm hdark]

/-- The light leaves give their colours in their order, and the others ascend by name. -/
theorem Matched.unique {lights' singles' : List Color} (h : Matched any dark lights singles)
    (h' : Matched any dark lights' singles') : lights = lights' ∧ singles = singles' := by
  constructor
  · refine List.ext_getElem? fun i => ?_
    by_cases hi : i < any.length
    · obtain ⟨hex, color, hcolor, hlight⟩ := h.light i hi
      obtain ⟨hex', color', hcolor', hlight'⟩ := h'.light i hi
      rw [hcolor, hcolor', hlight.eq hlight']
    · have hlength := h.length
      have hlength' := h'.length
      rw [List.getElem?_eq_none (by omega), List.getElem?_eq_none (by omega)]
  · have hirrefl : Std.Irrefl fun a b : Color => Text.bytes a.name < Text.bytes b.name :=
      ⟨fun a => List.lt_irrefl _⟩
    have hantisymm : Std.Antisymm fun a b : Color => Text.bytes a.name < Text.bytes b.name :=
      ⟨fun a b hab hba => absurd hba (List.lt_asymm hab)⟩
    refine List.Pairwise.eq_of_mem_iff h.ascending h'.ascending fun color => ?_
    rw [h.mem_singles_iff, h'.mem_singles_iff]

/-- The leaves determine the combined colours and their order, for colours of one name come from one
leaf. -/
theorem Combined.unique {colors colors' : List Color} (h : Combined any dark colors)
    (h' : Combined any dark colors') : colors = colors' := by
  obtain ⟨lights, singles, hmatched, -, hsorted, hkept⟩ := h
  obtain ⟨lights', singles', hmatched', -, hsorted', hkept'⟩ := h'
  obtain ⟨rfl, rfl⟩ := hmatched.unique hmatched'
  refine Stage.eq_of_filter_name (hsorted.imp Stage.nameLess_eq_false_iff.2)
    (hsorted'.imp Stage.nameLess_eq_false_iff.2) fun name => ?_
  exact (hkept name).trans (hkept' name).symm

/-- Putting colours together gives the combined colours, and only these. -/
theorem combine_eq_ok_iff_combined {colors : List Color} :
    combine any dark = .ok colors ↔ Combined any dark colors := by
  refine ⟨combined_of_combine, fun h => ?_⟩
  obtain ⟨found, hfound⟩ := exists_combine_iff.2 h.allTexts
  rw [hfound, (combined_of_combine hfound).unique h]

end

/-- Two lists of leaves combine exactly if all that count are texts. A failure tells the first light
leaf that is none or, without one, the least such name of dark leaves only. The result is the list
of all colours, ordered by name. -/
theorem combine_spec (any dark : List TokenValue) :
    ((∃ colors, combine any dark = .ok colors) ↔ AllTexts any dark) ∧
      (∀ problem, combine any dark = .error problem ↔
        ∃ name, problem = .missingColorValue name ∧ Fault any dark name) ∧
      ∀ colors, combine any dark = .ok colors ↔ Combined any dark colors :=
  ⟨exists_combine_iff, fun _ => combine_eq_error_iff, fun _ => combine_eq_ok_iff_combined⟩

/-- The first leaf of a name takes the dark one, and the last of several dark ones counts. -/
example :
    let leaf (name hex : String) : TokenValue := ⟨name, ⟨"color", .string hex, none⟩⟩
    combine [leaf "b" "#B00000", leaf "a" "#A00000", leaf "a" "#A10000"]
        [leaf "a" "#A20000", leaf "c" "#C00000", leaf "c" "#C10000"] =
      .ok [ofHexes "a" "#A00000" (some "#A20000"), ofHexes "a" "#A10000" none,
        ofHexes "b" "#B00000" none, ofHexes "c" "#C10000" none] := by
  rfl

end DesignTokens.Color

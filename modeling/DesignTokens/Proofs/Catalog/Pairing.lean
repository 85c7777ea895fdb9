import DesignTokens.Proofs.Catalog.Color

/-!
# Pairing light and dark leaves

Several leaves may have one name. `combine_last` says which of them counts: the last colour that
`Color.combine` makes of a name shows the last light leaf of that name, or the last dark leaf if
there is no light one (`lightOf`). Its dark appearance is that of the last dark leaf, but only if
there is a single light leaf, since the first of several takes the dark one (`darkOf`).
-/

set_option autoImplicit false

namespace DesignTokens.Color

/-! ### Leaves of a name -/

/-- The leaves of a name. -/
def named (name : String) (leaves : List TokenValue) : List TokenValue :=
  leaves.filter fun leaf => leaf.name = name

/-- The last leaf of a name. -/
def lastNamed? (name : String) (leaves : List TokenValue) : Option Entry :=
  (named name leaves).getLast?.map (·.entry)

/-- The leaf that the light appearance of a name shows. -/
def lightOf (any dark : List TokenValue) (name : String) : Option Entry :=
  (lastNamed? name any).or (lastNamed? name dark)

/-- The leaf that the dark appearance of a name shows, if its text differs. -/
def darkOf (any dark : List TokenValue) (name : String) : Option Entry :=
  if (named name any).length = 1 then lastNamed? name dark else none

/-- No leaf has a name exactly if the name is not among those of the leaves. -/
theorem named_eq_nil_iff {name : String} {leaves : List TokenValue} :
    named name leaves = [] ↔ name ∉ leaves.map (·.name) := by
  simp [named, List.filter_eq_nil_iff]

/-- The same for the last leaf of a name. -/
theorem lastNamed?_eq_none_iff {name : String} {leaves : List TokenValue} :
    lastNamed? name leaves = none ↔ name ∉ leaves.map (·.name) := by
  rw [lastNamed?, Option.map_eq_none_iff, List.getLast?_eq_none_iff, named_eq_nil_iff]

/-- The table of dark leaves holds the last leaf of a name. -/
theorem lookup_dark (dark : List TokenValue) (name : String) :
    (Keyed.ofList (dark.map fun leaf => (leaf.name, leaf.entry))).lookup name =
      lastNamed? name dark := by
  rw [Keyed.lookup_ofList, List.filter_map, List.getLast?_map, Option.map_map]
  rfl

/-! ### Pairing -/

section
variable {table rest : List (String × Entry)} {tokens : List TokenValue} {colors : List Color}
  {name : String}

/-- The leaves of the first one's name start with the first one. -/
theorem named_cons_self (token : TokenValue) (tokens : List TokenValue) :
    named token.name (token :: tokens) = token :: named token.name tokens := by
  simp [named]

/-- A leaf of another name can be left out. -/
theorem named_cons_of_ne {token : TokenValue} (h : token.name ≠ name)
    (tokens : List TokenValue) : named name (token :: tokens) = named name tokens := by
  simp [named, h]

/-- A colour has the name it was made for. -/
theorem name_of_ofEntries {any : Entry} {dark : Option Entry} {color : Color}
    (h : ofEntries name any dark = .ok color) : color.name = name := by
  obtain ⟨hex, -, rfl⟩ := ofEntries_eq_ok_iff.1 h
  rfl

/-- Without light leaves of a name there are no paired colours of it: pairing makes one colour for
each light leaf, under its name. -/
theorem pair_nil (h : pair table tokens = .ok (colors, rest)) (hnamed : named name tokens = []) :
    colors.filter (fun color => color.name = name) = [] := by
  induction tokens generalizing table colors with
  | nil =>
    cases h
    rfl
  | cons token tokens ih =>
    obtain ⟨color, later, hcolor, hlater, rfl⟩ := pair_cons_eq_ok_iff.1 h
    by_cases hname : token.name = name
    · subst hname
      rw [named_cons_self] at hnamed
      cases hnamed
    · rw [named_cons_of_ne hname] at hnamed
      have hne : ¬ color.name = name := by rwa [name_of_ofEntries hcolor]
      rw [List.filter_cons_of_neg (by simpa using hne)]
      exact ih hlater hnamed

/-- The last colour of a name comes from the last light leaf of it, and has a dark leaf only if
this is the first one as well. -/
theorem pair_last {start : List TokenValue} {last : TokenValue}
    (h : pair table tokens = .ok (colors, rest)) (hnamed : named name tokens = start ++ [last]) :
    ∃ before color, colors.filter (fun color => color.name = name) = before ++ [color] ∧
      ofEntries name last.entry (if start = [] then table.lookup name else none) = .ok color := by
  induction tokens generalizing table colors start with
  | nil => simp [named] at hnamed
  | cons token tokens ih =>
    obtain ⟨color, later, hcolor, hlater, rfl⟩ := pair_cons_eq_ok_iff.1 h
    by_cases hname : token.name = name
    · subst hname
      have hkept : (color :: later).filter (fun color => color.name = token.name) =
          color :: later.filter (fun color => color.name = token.name) :=
        List.filter_cons_of_pos (by simpa using name_of_ofEntries hcolor)
      rw [named_cons_self] at hnamed
      cases start with
      | nil =>
        obtain ⟨rfl, hnone⟩ := List.cons.inj hnamed
        refine ⟨[], color, ?_, by simpa using hcolor⟩
        rw [hkept, pair_nil hlater hnone]
        rfl
      | cons first start =>
        obtain ⟨rfl, hmore⟩ := List.cons.inj hnamed
        obtain ⟨before, found, hfilter, hfound⟩ := ih hlater hmore
        refine ⟨color :: before, found, ?_, ?_⟩
        · rw [hkept, hfilter]
          rfl
        · -- the dark leaf went to the first light one
          simpa using hfound
    · rw [named_cons_of_ne hname] at hnamed
      obtain ⟨before, found, hfilter, hfound⟩ := ih hlater hnamed
      rw [Keyed.lookup_erase_of_ne (Ne.symm hname)] at hfound
      have hne : ¬ color.name = name := by rwa [name_of_ofEntries hcolor]
      refine ⟨before, found, ?_, hfound⟩
      rw [List.filter_cons_of_neg (by simpa using hne), hfilter]

/-- What is left of the dark leaves are those of names without light leaves. Each light leaf removes
the dark leaf of its name, and only the first one finds it. -/
theorem pair_rest (h : pair table tokens = .ok (colors, rest)) (htable : Keyed.Ascending table) :
    Keyed.Ascending rest ∧
      ∀ name, rest.lookup name = if named name tokens = [] then table.lookup name else none := by
  induction tokens generalizing table colors with
  | nil =>
    cases h
    exact ⟨htable, fun name => by simp [named]⟩
  | cons token tokens ih =>
    obtain ⟨color, later, -, hlater, rfl⟩ := pair_cons_eq_ok_iff.1 h
    obtain ⟨hrest, hlookup⟩ := ih hlater (Keyed.ascending_erase htable)
    refine ⟨hrest, fun name => ?_⟩
    rw [hlookup]
    by_cases hname : token.name = name
    · subst hname
      simp [named_cons_self]
    · rw [named_cons_of_ne hname, Keyed.lookup_erase_of_ne (Ne.symm hname)]

/-- Every colour that comes out of pairing has the name of a light leaf. -/
theorem name_of_pair (h : pair table tokens = .ok (colors, rest)) :
    ∀ color ∈ colors, color.name ∈ tokens.map (·.name) := by
  induction tokens generalizing table colors with
  | nil =>
    cases h
    simp
  | cons token tokens ih =>
    obtain ⟨color, later, hcolor, hlater, rfl⟩ := pair_cons_eq_ok_iff.1 h
    intro found hmem
    rcases List.mem_cons.1 hmem with rfl | hmem
    · simp [name_of_ofEntries hcolor]
    · exact List.mem_cons_of_mem _ (ih hlater found hmem)

end

/-! ### All colours -/

/-- What is left of the table is the last leaf of each name of dark leaves only. -/
theorem mem_rest_iff {any dark : List TokenValue} {rest : List (String × Entry)}
    {colors : List Color}
    (h : pair (Keyed.ofList (dark.map fun leaf => (leaf.name, leaf.entry))) any =
      .ok (colors, rest)) {name : String} {entry : Entry} :
    (name, entry) ∈ rest ↔ name ∉ any.map (·.name) ∧ lastNamed? name dark = some entry := by
  obtain ⟨hrest, hlookup⟩ := pair_rest h (Keyed.ascending_ofList _)
  rw [← Keyed.lookup_eq_some_iff hrest, hlookup, lookup_dark]
  by_cases hname : name ∈ any.map (·.name)
  · rw [if_neg fun hnone => named_eq_nil_iff.1 hnone hname]
    exact ⟨nofun, fun h => absurd hname h.1⟩
  · rw [if_pos (named_eq_nil_iff.2 hname)]
    exact ⟨fun h => ⟨hname, h⟩, fun h => h.2⟩

/-- The colours of the dark leaves that are left, name by name. A colour has the name of its leaf,
so both lists can be filtered at once. -/
theorem single_named {rest : List (String × Entry)} {single : List Color}
    (h : List.Forall₂ (fun pair color => ofEntries pair.1 pair.2 none = .ok color) rest single)
    (name : String) :
    List.Forall₂ (fun pair color => ofEntries pair.1 pair.2 none = .ok color)
      (rest.filter fun pair => pair.1 = name) (single.filter fun color => color.name = name) := by
  induction h with
  | nil => exact .nil
  | @cons pair color rest single hcolor _ ih =>
    have hsame := name_of_ofEntries hcolor
    by_cases hname : pair.1 = name
    · rw [List.filter_cons_of_pos (by simpa using hname),
        List.filter_cons_of_pos (by simpa using hsame.trans hname)]
      exact .cons hcolor ih
    · rw [List.filter_cons_of_neg (by simpa using hname),
        List.filter_cons_of_neg (by simpa [hsame] using hname)]
      exact ih

section
variable {any dark : List TokenValue} {colors : List Color}

/-- Every colour of the combined list has a name from one of the two lists. -/
theorem name_of_combine (h : combine any dark = .ok colors) :
    ∀ color ∈ colors, color.name ∈ (any ++ dark).map (·.name) := by
  obtain ⟨paired, rest, single, hpair, hsingle, rfl⟩ := combine_eq_ok_iff.1 h
  intro color hmem
  rw [List.map_append, List.mem_append]
  rcases List.mem_append.1 (Stage.mem_sortBy.1 hmem) with hmem | hmem
  · exact Or.inl (name_of_pair hpair color hmem)
  · -- the table of dark leaves finds a leaf under the name
    right
    obtain ⟨pair, hrest, hcolor⟩ := Result.exists_of_mem_right hsingle hmem
    rw [name_of_ofEntries hcolor]
    by_contra hdark
    have hlast := ((mem_rest_iff hpair).1 hrest).2
    rw [lastNamed?_eq_none_iff.2 hdark] at hlast
    cases hlast

/-- The last colour of each name, before all colours of greater names. It is the one that counts for
the name's manifest, as the files are written in the order of the list, and it is made of the leaves
that `lightOf` and `darkOf` name. -/
theorem combine_last (h : combine any dark = .ok colors) {name : String}
    (hname : name ∈ (any ++ dark).map (·.name)) :
    ∃ before color after, colors = before ++ color :: after ∧
      (∀ other ∈ after, name < other.name) ∧
      ∃ leaf, lightOf any dark name = some leaf ∧
        ofEntries name leaf (darkOf any dark name) = .ok color := by
  obtain ⟨paired, rest, single, hpair, hsingle, rfl⟩ := combine_eq_ok_iff.1 h
  obtain ⟨hrest, hlookup⟩ := pair_rest hpair (Keyed.ascending_ofList _)
  have hpairs := single_named hsingle name
  rw [Keyed.filter_key hrest, hlookup, lookup_dark] at hpairs
  -- it is enough to know the last of the name, since sorting keeps them in order
  suffices hlast : ∃ start color,
      (paired ++ single).filter (fun color => Named.name color = name) = start ++ [color] ∧
        ∃ leaf, lightOf any dark name = some leaf ∧
          ofEntries name leaf (darkOf any dark name) = .ok color by
    obtain ⟨start, color, hfilter, hcolor⟩ := hlast
    obtain ⟨before, after, hsorted, hafter⟩ := Stage.sortBy_nameLess_split hfilter
    exact ⟨before, color, after, hsorted, hafter, hcolor⟩
  have hfilter : (paired ++ single).filter (fun color => Named.name color = name) =
      paired.filter (fun color => color.name = name) ++
        single.filter (fun color => color.name = name) := List.filter_append ..
  rw [hfilter]
  rcases List.eq_nil_or_concat (named name any) with hnone | ⟨start, last, hnamed⟩
  · -- the name is one of dark leaves only
    rw [pair_nil hpair hnone]
    have hdark : name ∈ dark.map (·.name) := by
      rw [List.map_append, List.mem_append] at hname
      exact hname.resolve_left (named_eq_nil_iff.1 hnone)
    cases hfound : lastNamed? name dark with
    | none => exact absurd hdark (lastNamed?_eq_none_iff.1 hfound)
    | some leaf =>
      rw [if_pos hnone, hfound] at hpairs
      obtain ⟨color, colors, hcolor, hnil, hsame⟩ := List.forall₂_cons_left_iff.1 hpairs
      rw [List.forall₂_nil_left_iff.1 hnil] at hsame
      refine ⟨[], color, hsame, leaf, ?_, ?_⟩
      · simp [lightOf, lastNamed?, hnone, ← hfound]
      · simpa [darkOf, hnone] using hcolor
  · -- the dark leaf of the name is no colour of its own
    rw [List.concat_eq_append] at hnamed
    obtain ⟨before, color, hpaired, hcolor⟩ := pair_last hpair hnamed
    rw [if_neg (by simp [hnamed])] at hpairs
    rw [hpaired, List.forall₂_nil_left_iff.1 hpairs, List.append_nil]
    refine ⟨before, color, rfl, last.entry, ?_, ?_⟩
    · simp [lightOf, lastNamed?, hnamed]
    · rw [lookup_dark] at hcolor
      simpa [darkOf, hnamed] using hcolor

end

end DesignTokens.Color

import DesignTokens.Proofs.Result
import DesignTokens.Proofs.Token.Extract

/-!
# Groups inside a document

A path of keys that leads through groups only (`GroupsAlong`) leads to a part of the document that
can be looked up and extracted on its own. `subToken_values` says how the parts fit together.
Looking up a long path is looking up its rest in the group at the end of its beginning. The leaves
below a path stand next to each other among all leaves (`Cut`): the members of a group have
different keys, so all paths through one of them are listed together, and by induction over the
path so are those that go on in the same way.
-/

set_option autoImplicit false

namespace DesignTokens

/-! ### Canonical form -/

namespace Keyed

/-- A pair whose key is less than all others is put in front. -/
theorem insertIfNew_of_forall_lt {α : Type} {key : String} {table : List (String × α)}
    (h : ∀ pair ∈ table, key < pair.1) (value : α) :
    insertIfNew key value table = (key, value) :: table := by
  cases table with
  | nil => rfl
  | cons first rest => rw [insertIfNew, if_pos (h first List.mem_cons_self)]

end Keyed

namespace Value

mutual

/-- A value in canonical form is its own canonical form. -/
theorem canonical_of_ordered : ∀ {value : Value}, value.Ordered → value.canonical = value
  | .array items, h => by rw [canonical, canonicalAll_of_ordered h]
  | .object members, h => by rw [canonical, canonicalMembers_of_ordered h.1 h.2]
  | .null, _ => rfl
  | .bool _, _ => rfl
  | .number _, _ => rfl
  | .string _, _ => rfl

/-- Items that are in order are brought into canonical form by doing nothing. -/
theorem canonicalAll_of_ordered : ∀ {items : List Value}, OrderedAll items →
    canonicalAll items = items
  | [], _ => rfl
  | item :: items, h => by
    rw [canonicalAll, canonical_of_ordered h.1, canonicalAll_of_ordered h.2]

/-- So are members whose keys ascend. -/
theorem canonicalMembers_of_ordered : ∀ {members : Members}, Keyed.Ascending members →
    OrderedMembers members → canonicalMembers members = members
  | [], _, _ => rfl
  | (_, value) :: rest, hascending, hordered => by
    rw [canonicalMembers, canonical_of_ordered hordered.1,
      canonicalMembers_of_ordered hascending.2 hordered.2,
      Keyed.insertIfNew_of_forall_lt hascending.1]

end

end Value

namespace DesignToken

/-! ### Looking up -/

/-- A token document is determined by its members. -/
theorem ext_members {token other : DesignToken} (h : token.members = other.members) :
    token = other := by
  cases token
  cases other
  cases h
  rfl

/-- The document that is made of the members of a document. -/
theorem ofValue_members (token : DesignToken) : ofValue (.object token.members) = .ok token := by
  have hmembers := Value.canonicalMembers_of_ordered token.ascending token.ordered
  exact congrArg Except.ok (ext_members hmembers)

/-- A part of a document is there exactly if the keys lead to an object, and it has the members of
this object. -/
theorem subToken_eq_ok_iff {token group : DesignToken} {keys : List String} :
    token.subToken keys = .ok group ↔ follow? token.members keys = some group.members := by
  unfold subToken
  split
  · rename_i inner hfollow
    constructor
    · intro heq
      cases heq
      exact hfollow
    · intro hgroup
      exact congrArg Except.ok (ext_members (Option.some.inj (hfollow.symm.trans hgroup)))
  · rename_i hnone
    exact ⟨nofun, fun hgroup => nomatch hnone.symm.trans hgroup⟩

/-- A part that is not there is reported with all keys. -/
theorem subToken_eq_error {token : DesignToken} {keys : List String} {problem : Problem}
    (h : token.subToken keys = .error problem) : problem = .subtokenNotFound keys := by
  unfold subToken at h
  split at h
  · cases h
  · cases h
    rfl

/-- The values below keys are missing exactly if the part is, and they are reported with the same
keys. -/
theorem values_eq_error_iff {token : DesignToken} {keys : List String}
    {usePrefix : Bool} {problem : Problem} :
    token.values keys usePrefix = .error problem ↔
      (∀ group, token.subToken keys ≠ .ok group) ∧ problem = .subtokenNotFound keys := by
  rw [values]
  cases hsubtoken : token.subToken keys with
  | ok group => simp [Except.map]
  | error found =>
    obtain rfl := subToken_eq_error hsubtoken
    simp [Except.map, eq_comm]

/-- Keys may be followed in two goes. -/
theorem follow?_append (members : Members) (keys later : List String) :
    follow? members (keys ++ later) = (follow? members keys).bind (follow? · later) := by
  induction keys generalizing members with
  | nil => rfl
  | cons key keys ih =>
    rw [List.cons_append, follow?, follow?]
    split
    · exact ih _
    · rfl

/-- A long path is looked up in two parts. -/
theorem subToken_append_eq_ok_iff {token found : DesignToken} {keys later : List String} :
    token.subToken (keys ++ later) = .ok found ↔
      ∃ group, token.subToken keys = .ok group ∧ group.subToken later = .ok found := by
  simp only [subToken_eq_ok_iff, follow?_append, Option.bind_eq_some_iff]
  constructor
  · rintro ⟨members, hkeys, hlater⟩
    obtain ⟨hascending, hordered⟩ := ordered_of_follow? token.ascending token.ordered hkeys
    exact ⟨⟨members, hascending, hordered⟩, hkeys, hlater⟩
  · rintro ⟨group, hkeys, hlater⟩
    exact ⟨group.members, hkeys, hlater⟩

/-! ### Leaves below a path -/

/-- All nodes that the path leads to, at its end and on the way, are groups. -/
def GroupsAlong (members : Members) (keys : List String) : Prop :=
  ∀ before, before ≠ [] → before <+: keys →
    ∃ node, nodeAt? (.object members) before = some node ∧ IsGroup node

/-- No keys lead through no groups. -/
theorem groupsAlong_nil (members : Members) : GroupsAlong members [] :=
  fun _ hnonempty hprefix => absurd (List.prefix_nil.1 hprefix) hnonempty

/-- Keys lead through groups if the first of them leads to a group and the others do so inside
it. -/
theorem groupsAlong_cons_iff {members : Members} {key : String} {keys : List String} :
    GroupsAlong members (key :: keys) ↔
      ∃ inner, members.lookup key = some (.object inner) ∧ IsGroup (.object inner) ∧
        GroupsAlong inner keys := by
  constructor
  · intro h
    obtain ⟨node, hnode, inner, rfl, hnone⟩ := h [key] (by simp) (by simp)
    obtain ⟨found, hlookup, hfound⟩ := Option.bind_eq_some_iff.1 hnode
    cases hfound
    refine ⟨inner, hlookup, ⟨inner, rfl, hnone⟩, fun before hnonempty hprefix => ?_⟩
    obtain ⟨deeper, hdeeper, hgroup⟩ := h (key :: before) (by simp)
      (List.cons_prefix_cons.2 ⟨rfl, hprefix⟩)
    obtain ⟨found, hlookup', hfound⟩ := Option.bind_eq_some_iff.1 hdeeper
    cases hlookup.symm.trans hlookup'
    exact ⟨deeper, hfound, hgroup⟩
  · rintro ⟨inner, hlookup, hgroup, halong⟩ (_ | ⟨first, before⟩) hnonempty hprefix
    · exact absurd rfl hnonempty
    · obtain ⟨rfl, hrest⟩ := List.cons_prefix_cons.1 hprefix
      cases before with
      | nil => exact ⟨_, Option.bind_eq_some_iff.2 ⟨_, hlookup, rfl⟩, hgroup⟩
      | cons next before =>
        obtain ⟨node, hnode, hnodeGroup⟩ := halong (next :: before) (by simp) hrest
        exact ⟨node, Option.bind_eq_some_iff.2 ⟨_, hlookup, hnode⟩, hnodeGroup⟩

/-- A leaf, seen from where the path of keys starts. -/
def below (keys : List String) (leaf : List String × Entry) : List String × Entry :=
  (keys ++ leaf.1, leaf.2)

/-- The leaves of more members follow those of the others. -/
theorem leavesOf_append (members others : Members) :
    leavesOf (members ++ others) = leavesOf members ++ leavesOf others := by
  induction members with
  | nil => rfl
  | cons first members ih =>
    rw [List.cons_append, leavesOf, leavesOf, ih, List.append_assoc]

/-- The leaves of a group are those of its members. -/
theorem leavesOfNode_of_isGroup {members : Members} (h : IsGroup (.object members)) :
    leavesOfNode (.object members) = leavesOf members := by
  obtain ⟨found, heq, hnone⟩ := h
  cases heq
  rw [leavesOfNode, Entry.decode?_eq_none_iff.2 hnone]

/-- The leaves below one member that is a group stand between those of the other members. -/
theorem leavesOf_split {members inner : Members} {key : String} (h : Keyed.Ascending members)
    (hlookup : members.lookup key = some (.object inner)) (hgroup : IsGroup (.object inner)) :
    ∃ front back, leavesOf members =
        leavesOf front ++ (leavesOf inner).map (below [key]) ++ leavesOf back ∧
      ∀ member ∈ front ++ back, member.1 ≠ key := by
  obtain ⟨front, back, rfl, hfront⟩ := List.lookup_eq_some_iff.1 hlookup
  have hkeys := Keyed.pairwise_keys h
  rw [List.map_append, List.map_cons, List.pairwise_append, List.pairwise_cons] at hkeys
  refine ⟨front, back, ?_, fun member hmem => ?_⟩
  · rw [leavesOf_append, leavesOf, leavesOfNode_of_isGroup hgroup, ← List.append_assoc]
    rfl
  · rcases List.mem_append.1 hmem with hmem | hmem
    · exact Ne.symm (by simpa using hfront member hmem)
    · have hless := hkeys.2.1.1 member.1 (List.mem_map_of_mem hmem)
      exact fun heq => String.lt_irrefl key (heq ▸ hless)

/-- The paths through other members do not begin with the key. -/
theorem not_prefix_of_mem_leavesOf {members : Members} {key : String} {keys : List String}
    (h : ∀ member ∈ members, member.1 ≠ key) {leaf : List String × Entry}
    (hmem : leaf ∈ leavesOf members) : ¬ key :: keys <+: leaf.1 := by
  obtain ⟨first, node, path, hfirst, hpath⟩ := mem_keys_of_mem_leavesOf hmem
  rw [hpath, List.cons_prefix_cons]
  exact fun hprefix => h _ hfirst hprefix.1.symm

/-- The leaves of the group at the end of a path stand next to each other among all leaves, and no
other leaf has a path that begins in this way. -/
theorem exists_cut {members : Members} (hascending : Keyed.Ascending members)
    (hordered : Value.OrderedMembers members) {keys : List String}
    (h : GroupsAlong members keys) :
    ∃ inner before after, follow? members keys = some inner ∧
      leavesOf members = before ++ (leavesOf inner).map (below keys) ++ after ∧
      ∀ leaf ∈ before ++ after, ¬ keys <+: leaf.1 := by
  induction keys generalizing members with
  | nil =>
    have hsame : below [] = id := rfl
    exact ⟨members, [], [], rfl, by simp [hsame], by simp⟩
  | cons key keys ih =>
    obtain ⟨group, hlookup, hgroup, halong⟩ := groupsAlong_cons_iff.1 h
    obtain ⟨hascending', hordered'⟩ := ordered_of_lookup hordered hlookup
    obtain ⟨inner, before, after, hfollow, hleaves, hothers⟩ := ih hascending' hordered' halong
    obtain ⟨front, back, hsplit, hkeys⟩ := leavesOf_split hascending hlookup hgroup
    -- the members around the group add their leaves before and after its own
    refine ⟨inner, leavesOf front ++ before.map (below [key]),
      after.map (below [key]) ++ leavesOf back, ?_, ?_, ?_⟩
    · rw [follow?, hlookup]
      exact hfollow
    · have hbelow : below [key] ∘ below keys = below (key :: keys) := rfl
      rw [hsplit, hleaves, List.map_append, List.map_append, List.map_map, hbelow]
      simp only [List.append_assoc]
    · have hgroupLeaf : ∀ leaf ∈ before ++ after, ¬ key :: keys <+: (below [key] leaf).1 :=
        fun leaf hmem hprefix => hothers leaf hmem (List.cons_prefix_cons.1 hprefix).2
      intro leaf hmem
      simp only [List.mem_append, List.mem_map] at hmem hkeys hgroupLeaf
      rcases hmem with (hmem | ⟨inside, hmem, rfl⟩) | ⟨inside, hmem, rfl⟩ | hmem
      · exact not_prefix_of_mem_leavesOf (fun member hfront => hkeys member (.inl hfront)) hmem
      · exact hgroupLeaf inside (.inl hmem)
      · exact hgroupLeaf inside (.inr hmem)
      · exact not_prefix_of_mem_leavesOf (fun member hback => hkeys member (.inr hback)) hmem

/-! ### Values below a path -/

/-- The value of a leaf whose path starts here. -/
def named (usePrefix : Bool) (leaf : List String × Entry) : TokenValue :=
  ⟨leafName "" usePrefix leaf.1, leaf.2⟩

/-- All leaves of a document, cut into those below a path, with their paths from its end, and those
before and behind them; with the values of all leaves and of those below the path. -/
structure Cut (token : DesignToken) (keys : List String)
    (before block after : List (List String × Entry)) : Prop where
  leaves : ∀ path entry, (path, entry) ∈ before ++ block.map (below keys) ++ after ↔
    IsLeafAt token.members path entry
  ordered : (before ++ block.map (below keys) ++ after).Pairwise fun a b => PathLess a.1 b.1
  others : ∀ leaf ∈ before ++ after, ¬ keys <+: leaf.1
  all : token.values [] false =
    .ok (before.map (named false) ++ block.map (named false) ++ after.map (named false))
  plain : token.values keys false = .ok (block.map (named false))
  prefixed : token.values keys true = .ok (block.map (named true))

/-- Without a prefix, the values of a document are its leaves with their names. -/
theorem extract_eq_named (token : DesignToken) (usePrefix : Bool) :
    token.extract "" usePrefix = (leavesOf token.members).map (named usePrefix) := by
  rw [extract, collect_eq]
  refine List.map_congr_left fun leaf hleaf => ?_
  obtain ⟨key, node, path, -, hpath⟩ := mem_keys_of_mem_leavesOf hleaf
  rw [named, foldl_nodeName_eq_leafName usePrefix "" (by simp [hpath])]

/-- The values below keys are the leaves of the part, with their names. -/
theorem values_of_subToken {token group : DesignToken} {keys : List String}
    (h : token.subToken keys = .ok group) (usePrefix : Bool) :
    token.values keys usePrefix = .ok ((leavesOf group.members).map (named usePrefix)) := by
  rw [values, h, ← extract_eq_named]
  rfl

/-- A plain name is the last key, which does not depend on where the path starts. -/
theorem named_below {members : Members} {leaf : List String × Entry}
    (h : leaf ∈ leavesOf members) (keys : List String) :
    named false (below keys leaf) = named false leaf := by
  obtain ⟨key, node, path, -, hpath⟩ := mem_keys_of_mem_leavesOf h
  have hlast : (keys ++ leaf.1).getLastD "" = leaf.1.getLastD "" := by
    rw [hpath, List.getLastD_eq_getLast?, List.getLastD_eq_getLast?, List.getLast?_append,
      List.getLast?_cons]
    rfl
  show TokenValue.mk ((keys ++ leaf.1).getLastD "") leaf.2 = _
  rw [hlast]
  rfl

/-- If the keys lead through groups, the leaves below them are one block among those of the
document. -/
theorem cut_of_groupsAlong {token : DesignToken} {keys : List String}
    (h : GroupsAlong token.members keys) :
    ∃ before block after, Cut token keys before block after := by
  obtain ⟨inner, before, after, hfollow, hleaves, hothers⟩ :=
    exists_cut token.ascending token.ordered h
  obtain ⟨hascending, hordered⟩ := ordered_of_follow? token.ascending token.ordered hfollow
  have hgroup : token.subToken keys = .ok ⟨inner, hascending, hordered⟩ :=
    subToken_eq_ok_iff.2 hfollow
  have hroot : token.subToken [] = .ok token := subToken_eq_ok_iff.2 rfl
  refine ⟨before, leavesOf inner, after, ?leaves, ?ordered, hothers, ?all,
    values_of_subToken hgroup false, values_of_subToken hgroup true⟩
  case leaves =>
    intro path entry
    rw [← hleaves]
    exact mem_leavesOf_iff token.ascending token.ordered
  case ordered =>
    rw [← hleaves]
    exact pairwise_leavesOf token.ascending token.ordered
  case all =>
    -- the names of leaves do not hold their paths
    have hblock : ((leavesOf inner).map (below keys)).map (named false) =
        (leavesOf inner).map (named false) := by
      rw [List.map_map]
      exact List.map_congr_left fun leaf hleaf => named_below hleaf keys
    rw [values_of_subToken hroot, hleaves, List.map_append, List.map_append, hblock]

/-- Lookup and extraction fit together. A path leads to a group exactly if its beginning leads to
one in which the rest leads to that group, and a failure tells the whole path. Below a path through
groups only, the values are those that all values hold, in one piece, for the leaves whose paths go
on from there; with `usePrefix` their names begin below the path. -/
theorem subToken_values (token : DesignToken) :
    (∀ keys later,
      (∀ found, token.subToken (keys ++ later) = .ok found ↔
        ∃ group inner, token.subToken keys = .ok group ∧
          ofValue (.object group.members) = .ok inner ∧ inner.subToken later = .ok found) ∧
      ∀ problem, token.subToken (keys ++ later) = .error problem →
        problem = .subtokenNotFound (keys ++ later)) ∧
    ∀ keys, GroupsAlong token.members keys →
      ∃ before block after, Cut token keys before block after := by
  refine ⟨fun keys later => ⟨fun found => ?_, fun _ => subToken_eq_error⟩,
    fun keys => cut_of_groupsAlong⟩
  rw [subToken_append_eq_ok_iff]
  simp only [ofValue_members, Except.ok.injEq, exists_and_left, exists_eq_left']

/-- A group inside a group, between leaves whose names it uses again. -/
def gridToken : DesignToken :=
  let leaf (i : Int) : Value :=
    .object [("type", .string "number"), ("value", .number (.integer i))]
  .ofMembers [("grid", .object [("columns", leaf 4), ("tv", .object [("columns", leaf 12),
    ("margin", leaf 80)]), ("width", leaf 9)]), ("margin", leaf 5)]

/-- The keys of the document lead through groups. -/
theorem groupsAlong_gridToken : GroupsAlong gridToken.members ["grid", "tv"] :=
  groupsAlong_cons_iff.2 ⟨_, rfl, ⟨_, rfl, Entry.decode?_eq_none_iff.1 rfl⟩,
    groupsAlong_cons_iff.2 ⟨_, rfl, ⟨_, rfl, Entry.decode?_eq_none_iff.1 rfl⟩,
      groupsAlong_nil _⟩⟩

/-- The values of the inner group are the second and the third of all values. The path can be looked
up in two parts, and one that leads into a leaf fails as a whole. -/
theorem subToken_values_gridToken :
    (GroupsAlong gridToken.members ["grid", "tv"] ∧
      ∃ before block after, Cut gridToken ["grid", "tv"] before block after) ∧
    (∀ values, gridToken.values [] false = .ok values →
      gridToken.values ["grid", "tv"] false = .ok ((values.drop 1).take 2)) ∧
    (∃ found, gridToken.subToken (["grid"] ++ ["tv"]) = .ok found) ∧
    ∀ problem, gridToken.subToken (["grid"] ++ ["columns", "value"]) = .error problem →
      problem = .subtokenNotFound ["grid", "columns", "value"] := by
  have hspec := subToken_values gridToken
  refine ⟨⟨groupsAlong_gridToken, hspec.2 _ groupsAlong_gridToken⟩, ?_, ?_,
    (hspec.1 ["grid"] ["columns", "value"]).2⟩
  · intro values hvalues
    cases hvalues
    decide +kernel
  · exact ⟨_, ((hspec.1 ["grid"] ["tv"]).1 _).2 ⟨_, _, rfl, ofValue_members _, rfl⟩⟩

end DesignToken

end DesignTokens

import DesignTokens.Proofs.Keyed
import DesignTokens.Proofs.Text.ByteOrder
import DesignTokens.Proofs.Token.Leaf
import DesignTokens.Token.Document

/-!
# Extraction finds exactly the leaves

A leaf below a group is known by its path of keys: the node there describes an entry, and every node
on the way is a group (`IsLeafAt`). `leavesOf` lists the leaves with their paths.

* `collect_eq`: collecting is naming the listed leaves.
* `mem_leavesOf_iff`: the listed leaves are the leaves.
* `pairwise_leavesOf`: their paths ascend, so each stands there once.
* `extract_eq_leaves` puts these together for a whole document.
-/

set_option autoImplicit false

namespace DesignTokens.DesignToken

/-! ### Leaves by their paths -/

/-- The node at the end of a path of keys. -/
def nodeAt? : Value → List String → Option Value
  | node, [] => some node
  | node, key :: keys => (node.get? key).bind (nodeAt? · keys)

/-- An object that describes no entry. -/
def IsGroup (node : Value) : Prop :=
  ∃ members, node = .object members ∧ ∀ entry, ¬ Entry.Describes members entry

/-- At the end of the path stands an object that describes the entry, and before it on the path
stand groups only. The members that the path starts from are no part of it. -/
structure IsLeafAt (members : Members) (path : List String) (entry : Entry) : Prop where
  nonempty : path ≠ []
  describes : ∃ inner, nodeAt? (.object members) path = some (.object inner) ∧
    Entry.Describes inner entry
  groups : ∀ before, before ≠ [] → before <+: path → before ≠ path →
    ∃ node, nodeAt? (.object members) before = some node ∧ IsGroup node

/-- The name of the leaf at the end of a path. With `usePrefix` it is put together from `start` and
all keys of the path, otherwise it is the last key. -/
def leafName (start : String) : (usePrefix : Bool) → (path : List String) → String
  | true, path => path.foldl (fun name key => lowerFirst (name ++ upperFirst key)) start
  | false, path => path.getLastD ""

/-- The path of one leaf comes before that of another, key by key in the order of bytes. -/
def PathLess (a b : List String) : Prop :=
  a.map Text.bytes < b.map Text.bytes

/-- A node, seen from itself, leads to a leaf: the path may be empty. -/
def LeadsTo (node : Value) (path : List String) (entry : Entry) : Prop :=
  (∃ inner, nodeAt? node path = some (.object inner) ∧ Entry.Describes inner entry) ∧
  ∀ before, before <+: path → before ≠ path →
    ∃ found, nodeAt? node before = some found ∧ IsGroup found

/-- The empty path leads to a node that describes an entry itself. -/
theorem leadsTo_nil_iff {node : Value} {entry : Entry} :
    LeadsTo node [] entry ↔ ∃ inner, node = .object inner ∧ Entry.Describes inner entry := by
  constructor
  · rintro ⟨⟨inner, hnode, hd⟩, -⟩
    exact ⟨inner, Option.some.inj hnode, hd⟩
  · rintro ⟨inner, rfl, hd⟩
    refine ⟨⟨inner, rfl, hd⟩, fun before hpre hne => ?_⟩
    exact absurd (List.prefix_nil.mp hpre) hne

/-- Only an object leads to a leaf. -/
theorem not_leadsTo_of_not_object {node : Value} (h : ∀ members, node ≠ .object members)
    {path : List String} {entry : Entry} : ¬ LeadsTo node path entry := by
  rintro ⟨⟨inner, hnode, -⟩, hgroups⟩
  cases path with
  | nil => exact h inner (Option.some.inj hnode)
  | cons key path =>
    obtain ⟨found, hfound, members, rfl, -⟩ := hgroups [] List.nil_prefix (by simp)
    exact h members (Option.some.inj hfound)

/-- The leaves that a path leads to from a group are those that its rest leads to from the node
under its first key. -/
theorem isLeafAt_cons_iff {members : Members} {key : String} {path : List String}
    {entry : Entry} :
    IsLeafAt members (key :: path) entry ↔
      ∃ node, members.lookup key = some node ∧ LeadsTo node path entry := by
  constructor
  · rintro ⟨-, ⟨inner, hnode, hd⟩, hgroups⟩
    obtain ⟨node, hl, hnode⟩ := Option.bind_eq_some_iff.mp hnode
    refine ⟨node, hl, ⟨inner, hnode, hd⟩, fun before hpre hne => ?_⟩
    obtain ⟨found, hfound, hgroup⟩ := hgroups (key :: before) (by simp)
      (List.cons_prefix_cons.mpr ⟨rfl, hpre⟩) (by simpa using hne)
    obtain ⟨node', hl', hfound⟩ := Option.bind_eq_some_iff.mp hfound
    cases hl.symm.trans hl'
    exact ⟨found, hfound, hgroup⟩
  · rintro ⟨node, hl, ⟨inner, hnode, hd⟩, hgroups⟩
    refine ⟨by simp, ⟨inner, Option.bind_eq_some_iff.mpr ⟨node, hl, hnode⟩, hd⟩, ?_⟩
    rintro (_ | ⟨first, before⟩) hnonempty hpre hne
    · exact absurd rfl hnonempty
    · obtain ⟨rfl, hrest⟩ := List.cons_prefix_cons.mp hpre
      obtain ⟨found, hfound, hgroup⟩ := hgroups before hrest (by simpa using hne)
      exact ⟨found, Option.bind_eq_some_iff.mpr ⟨node, hl, hfound⟩, hgroup⟩

/-- A group leads to the leaves below its members: it describes no entry itself, so the path has at
least one key. -/
theorem leadsTo_group_iff {members : Members} (hgroup : IsGroup (.object members))
    {path : List String} {entry : Entry} :
    LeadsTo (.object members) path entry ↔ IsLeafAt members path entry := by
  constructor
  · rintro ⟨hd, hgroups⟩
    refine ⟨?_, hd, fun before _ hpre hne => hgroups before hpre hne⟩
    rintro rfl
    obtain ⟨inner, hnode, hd⟩ := hd
    obtain ⟨members', heq, hnone⟩ := hgroup
    cases hnode
    cases heq
    exact hnone entry hd
  · rintro ⟨-, hd, hgroups⟩
    refine ⟨hd, fun before hpre hne => ?_⟩
    cases before with
    | nil => exact ⟨_, rfl, hgroup⟩
    | cons first before => exact hgroups _ (by simp) hpre hne

/-! ### The list of the leaves -/

mutual

/-- The leaves that a node leads to, each with its path from the node. -/
def leavesOfNode : Value → List (List String × Entry)
  | .object members =>
    match Entry.decode? (.object members) with
    | some entry => [([], entry)]
    | none => leavesOf members
  | _ => []

/-- The leaves below a group, each with its path. -/
def leavesOf : Members → List (List String × Entry)
  | [] => []
  | (key, node) :: rest =>
    (leavesOfNode node).map (fun leaf => (key :: leaf.1, leaf.2)) ++ leavesOf rest

end

mutual

/-- Collecting the leaves of a node is listing them and naming each by its path. -/
theorem collectNode_eq (usePrefix : Bool) : ∀ (name : String) (node : Value),
    collectNode usePrefix name node =
      (leavesOfNode node).map fun leaf => ⟨leaf.1.foldl (nodeName usePrefix) name, leaf.2⟩
  | name, .object members => by
    rw [collectNode, leavesOfNode]
    cases Entry.decode? (.object members) with
    | some entry => rfl
    | none => exact collect_eq usePrefix name members
  | _, .null => rfl
  | _, .bool _ => rfl
  | _, .number _ => rfl
  | _, .string _ => rfl
  | _, .array _ => rfl

/-- Collecting the leaves below a group is listing them and naming each by its path. So the names
can be looked at apart from which leaves there are. -/
theorem collect_eq (usePrefix : Bool) : ∀ (start : String) (members : Members),
    collect usePrefix start members =
      (leavesOf members).map fun leaf => ⟨leaf.1.foldl (nodeName usePrefix) start, leaf.2⟩
  | _, [] => rfl
  | start, (key, node) :: rest => by
    rw [collect, leavesOf, List.map_append, List.map_map, collectNode_eq, collect_eq]
    rfl

end

/-- The paths of the listed leaves of a group start with its keys. -/
theorem mem_keys_of_mem_leavesOf {members : Members} {leaf : List String × Entry}
    (h : leaf ∈ leavesOf members) :
    ∃ key node path, (key, node) ∈ members ∧ leaf.1 = key :: path := by
  induction members with
  | nil => simp [leavesOf] at h
  | cons first rest ih =>
    obtain ⟨key, node⟩ := first
    rw [leavesOf, List.mem_append, List.mem_map] at h
    rcases h with ⟨inner, -, rfl⟩ | h
    · exact ⟨key, node, inner.1, by simp, rfl⟩
    · obtain ⟨key', node', path, hmem, heq⟩ := ih h
      exact ⟨key', node', path, List.mem_cons_of_mem _ hmem, heq⟩

mutual

/-- What is listed for a node is what the node leads to. A node that describes an entry is a leaf
and nothing else; any other object is a group; all other values lead nowhere. -/
theorem mem_leavesOfNode_iff : ∀ {node : Value}, node.Ordered →
    ∀ {path : List String} {entry : Entry},
      (path, entry) ∈ leavesOfNode node ↔ LeadsTo node path entry
  | .object members, hordered, path, entry => by
    rw [leavesOfNode]
    split
    · rename_i found hfound
      have hd := Entry.decode?_eq_some_iff.mp hfound
      constructor
      · intro hmem
        obtain ⟨rfl, rfl⟩ := Prod.mk.inj (List.mem_singleton.mp hmem)
        exact leadsTo_nil_iff.mpr ⟨members, rfl, hd⟩
      · rintro ⟨⟨inner, hnode, hentry⟩, hgroups⟩
        cases path with
        | nil =>
          cases hnode
          simp [hd.unique hentry]
        | cons key path =>
          -- a node that describes an entry is no group, so nothing below it is a leaf
          obtain ⟨node, hnode, members', heq, hnone⟩ := hgroups [] List.nil_prefix (by simp)
          cases hnode
          cases heq
          exact absurd hd (hnone found)
    · rename_i hnone
      rw [mem_leavesOf_iff hordered.1 hordered.2]
      exact (leadsTo_group_iff ⟨members, rfl, Entry.decode?_eq_none_iff.mp hnone⟩).symm
  | .null, _, _, _ => by simpa [leavesOfNode] using not_leadsTo_of_not_object (by simp)
  | .bool _, _, _, _ => by simpa [leavesOfNode] using not_leadsTo_of_not_object (by simp)
  | .number _, _, _, _ => by simpa [leavesOfNode] using not_leadsTo_of_not_object (by simp)
  | .string _, _, _, _ => by simpa [leavesOfNode] using not_leadsTo_of_not_object (by simp)
  | .array _, _, _, _ => by simpa [leavesOfNode] using not_leadsTo_of_not_object (by simp)

/-- What is listed for a group are the leaves below it. The induction is on the members, in one
recursion with the nodes below them; the first key of a path tells whether a leaf lies below the
first member or the others. -/
theorem mem_leavesOf_iff : ∀ {members : Members}, Keyed.Ascending members →
    Value.OrderedMembers members → ∀ {path : List String} {entry : Entry},
      (path, entry) ∈ leavesOf members ↔ IsLeafAt members path entry
  | _, _, _, [], _ => by
    constructor
    · intro hmem
      obtain ⟨key, node, path, -, heq⟩ := mem_keys_of_mem_leavesOf hmem
      exact absurd heq (by simp)
    · intro h
      exact absurd rfl h.nonempty
  | [], _, _, first :: path, entry => by
    simp [leavesOf, isLeafAt_cons_iff]
  | (key, node) :: rest, hascending, hordered, first :: path, entry => by
    have hnode : (path, entry) ∈ leavesOfNode node ↔ LeadsTo node path entry :=
      mem_leavesOfNode_iff hordered.1
    have hrest : (first :: path, entry) ∈ leavesOf rest ↔ IsLeafAt rest (first :: path) entry :=
      mem_leavesOf_iff hascending.2 hordered.2
    rw [leavesOf, List.mem_append, hrest, isLeafAt_cons_iff, isLeafAt_cons_iff]
    by_cases hkey : first = key
    · subst hkey
      -- the other members have greater keys
      have hnone : rest.lookup first = none := by
        rw [Option.eq_none_iff_forall_ne_some]
        intro other hl
        exact String.lt_irrefl first (hascending.1 _ (Keyed.mem_of_lookup hl))
      simp [hnone, hnode]
    · rw [Keyed.lookup_cons_of_ne hkey]
      simp [Ne.symm hkey]

end

/-! ### Their order -/

/-- A key in front of both paths does not change their order. -/
theorem pathLess_cons (key : String) {a b : List String} (h : PathLess a b) :
    PathLess (key :: a) (key :: b) :=
  List.cons_lt_cons_iff.mpr (Or.inr ⟨rfl, h⟩)

/-- The first keys decide if they differ. -/
theorem pathLess_of_lt {k l : String} (h : k < l) (a b : List String) :
    PathLess (k :: a) (l :: b) :=
  List.cons_lt_cons_iff.mpr (Or.inl ((Text.lt_iff_bytes k l).mp h))

mutual

/-- The paths of the leaves that are listed for a node ascend. -/
theorem pairwise_leavesOfNode : ∀ {node : Value}, node.Ordered →
    (leavesOfNode node).Pairwise fun a b => PathLess a.1 b.1
  | .object members, hordered => by
    rw [leavesOfNode]
    split
    · exact List.pairwise_singleton _ _
    · exact pairwise_leavesOf hordered.1 hordered.2
  | .null, _ => List.Pairwise.nil
  | .bool _, _ => List.Pairwise.nil
  | .number _, _ => List.Pairwise.nil
  | .string _, _ => List.Pairwise.nil
  | .array _, _ => List.Pairwise.nil

/-- The paths of the leaves that are listed for a group ascend. Within one member the inner paths
do, and between two members their keys do, as the document is ordered. -/
theorem pairwise_leavesOf : ∀ {members : Members}, Keyed.Ascending members →
    Value.OrderedMembers members → (leavesOf members).Pairwise fun a b => PathLess a.1 b.1
  | [], _, _ => List.Pairwise.nil
  | (key, node) :: rest, hascending, hordered => by
    rw [leavesOf, List.pairwise_append, List.pairwise_map]
    refine ⟨?_, pairwise_leavesOf hascending.2 hordered.2, ?_⟩
    · exact (pairwise_leavesOfNode hordered.1).imp fun h => pathLess_cons key h
    · intro a ha b hb
      obtain ⟨inner, -, rfl⟩ := List.mem_map.mp ha
      obtain ⟨key', node', path, hmem, heq⟩ := mem_keys_of_mem_leavesOf hb
      rw [heq]
      exact pathLess_of_lt (hascending.1 _ hmem) inner.1 path

end

/-! ### The whole document -/

/-- The name that is built up on the way down is the name of the leaf. -/
theorem foldl_nodeName_eq_leafName (usePrefix : Bool) (start : String) {path : List String}
    (h : path ≠ []) : path.foldl (nodeName usePrefix) start = leafName start usePrefix path := by
  cases usePrefix with
  | true => rfl
  | false =>
    induction path generalizing start with
    | nil => exact absurd rfl h
    | cons key path ih =>
      cases path with
      | nil => rfl
      | cons next path =>
        rw [List.foldl_cons, ih _ (by simp)]
        rfl

/-- The leaves of a document, for every way of naming them: there is exactly one value for each path
that leads to a leaf, with the entry that stands there; the values are in the order of the paths,
which is strict, and each is named after its path. -/
theorem extract_eq_leaves (token : DesignToken) (start : String) (usePrefix : Bool) :
    ∃ leaves : List (List String × Entry),
      token.extract start usePrefix =
        leaves.map (fun leaf => ⟨leafName start usePrefix leaf.1, leaf.2⟩) ∧
      leaves.Pairwise (fun a b => PathLess a.1 b.1) ∧
      ∀ path entry, (path, entry) ∈ leaves ↔ IsLeafAt token.members path entry := by
  refine ⟨leavesOf token.members, ?_, pairwise_leavesOf token.ascending token.ordered,
    fun path entry => mem_leavesOf_iff token.ascending token.ordered⟩
  rw [extract, collect_eq]
  refine List.map_congr_left fun leaf hleaf => ?_
  obtain ⟨key, node, path, -, heq⟩ := mem_keys_of_mem_leavesOf hleaf
  rw [foldl_nodeName_eq_leafName usePrefix start (by simp [heq])]

end DesignTokens.DesignToken

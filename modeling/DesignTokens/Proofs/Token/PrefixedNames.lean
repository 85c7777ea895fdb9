import DesignTokens.Proofs.Text.Case
import DesignTokens.Proofs.Token.Extract

/-!
# Names with a prefix

With `usePrefix` a name grows from level to level, and its first character is lowercased at each of
them. `prefixedName` does so once for a whole path. `extract_prefixed`: the leaves of a document
have these names. The induction is over the path and its step is `lowerFirst_append_lowered`. It
says nothing about the keys, so empty keys in front need no case of their own: what they add is
empty, and the next key is lowercased as if it came first.
-/

set_option autoImplicit false

namespace DesignTokens

/-- The same for texts as strings: it makes no difference whether the start of a name was lowercased
before something was put behind it. -/
theorem lowerFirst_append_lowered (name more : String) :
    lowerFirst (lowerFirst name ++ more) = lowerFirst (name ++ more) := by
  unfold lowerFirst
  rw [String.toList_append, String.toList_append, String.toList_ofList, Text.lowerFirst_append]

namespace DesignToken

/-- The name of a whole path: the capitalized keys behind `start`, and then the first character of
all this in lowercase. -/
def prefixedName (start : String) (path : List String) : String :=
  lowerFirst (start ++ String.join (path.map upperFirst))

/-- Going on from the name of a node is the same as going on from what it was made of. -/
theorem prefixedName_nodeName (start key : String) (path : List String) :
    prefixedName (nodeName true start key) path = prefixedName start (key :: path) := by
  have hnode : nodeName true start key = lowerFirst (start ++ upperFirst key) := rfl
  rw [prefixedName, hnode, lowerFirst_append_lowered, prefixedName, List.map_cons,
    String.join_cons, String.append_assoc]

/-- Going down key by key gives the name of the whole path, so that lowercasing at each key and
lowercasing once come to the same. -/
theorem foldl_nodeName_eq_prefixedName (start : String) {path : List String} (h : path ≠ []) :
    path.foldl (nodeName true) start = prefixedName start path := by
  induction path generalizing start with
  | nil => exact absurd rfl h
  | cons key path ih =>
    rw [List.foldl_cons]
    cases path with
    | nil =>
      rw [List.foldl_nil, prefixedName, List.map_singleton, String.join_cons, String.join_nil,
        String.append_empty]
      rfl
    | cons next path => rw [ih _ (by simp), prefixedName_nodeName]

/-- With `usePrefix` the name of a leaf is put together from `start` and the capitalized keys of its
path, and lowercased once. There is one value for each path that leads to a leaf, in the order of
the paths. -/
theorem extract_prefixed (token : DesignToken) (start : String) :
    ∃ leaves : List (List String × Entry),
      token.extract start true =
        leaves.map (fun leaf => ⟨prefixedName start leaf.1, leaf.2⟩) ∧
      leaves.Pairwise (fun a b => PathLess a.1 b.1) ∧
      ∀ path entry, (path, entry) ∈ leaves ↔ IsLeafAt token.members path entry := by
  refine ⟨leavesOf token.members, ?_, pairwise_leavesOf token.ascending token.ordered,
    fun path entry => mem_leavesOf_iff token.ascending token.ordered⟩
  rw [extract, collect_eq]
  refine List.map_congr_left fun leaf hleaf => ?_
  obtain ⟨key, node, path, -, hpath⟩ := mem_keys_of_mem_leavesOf hleaf
  rw [foldl_nodeName_eq_prefixedName start (by simp [hpath])]

/-- Below an empty key, `İ` becomes two characters when it is lowercased, and `ß` two when it is
capitalized. -/
example :
    let leaf : Value := .object [("type", .string "t"), ("value", .null)]
    (ofMembers [("", .object [("İx", .object [("ßy", leaf)])])]).extract "" true =
      [⟨"i\u0307xSSy", ⟨"t", .null, none⟩⟩] := by
  decide +kernel

end DesignToken

end DesignTokens

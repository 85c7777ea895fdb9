import DesignTokens.Failure.Problem
import DesignTokens.Token.Entry

/-!
# The token document

A token document is an object of any depth. An object that reads as an `Entry` is a leaf, every
other object a group; scalars and arrays outside leaves are ignored. `subToken` walks to a group,
`extract` collects the leaves below one in the order of their key paths.
-/

set_option autoImplicit false

namespace DesignTokens

/-- A token document: members in canonical form. -/
structure DesignToken where
  members : Members
  ascending : Keyed.Ascending members
  ordered : Value.OrderedMembers members

namespace DesignToken

/-- The document of an object given in any order. -/
def ofMembers (members : Members) : DesignToken :=
  ⟨Value.canonicalMembers members, Value.ascending_canonicalMembers members,
    Value.orderedMembers_canonicalMembers members⟩

/-- The document of a value that must be an object. -/
def ofValue (value : Value) : Except Problem DesignToken :=
  match value with
  | .object members => .ok (ofMembers members)
  | other =>
    .error (.decodeFailure "<token>" ("expected an object, found " ++ other.kindName))

/-- The members at the end of a path of keys, each of which must lead to an object. -/
def follow? (members : Members) : (keys : List String) → Option Members
  | [] => some members
  | key :: keys =>
    match members.lookup key with
    | some (.object inner) => follow? inner keys
    | _ => none

/-- An object inside an ordered document is ordered itself. -/
theorem ordered_of_lookup {members inner : Members} {key : String}
    (h : Value.OrderedMembers members) (hl : members.lookup key = some (.object inner)) :
    Keyed.Ascending inner ∧ Value.OrderedMembers inner := by
  induction members with
  | nil => simp at hl
  | cons first rest ih =>
    obtain ⟨k, v⟩ := first
    simp only [Value.OrderedMembers] at h
    rw [List.lookup_cons] at hl
    split at hl
    · cases hl
      simpa [Value.Ordered] using h.1
    · exact ih h.2 hl

/-- A path leads to members in canonical form, if the document is in canonical form. The induction
is on the path. -/
theorem ordered_of_follow? {members inner : Members} {keys : List String}
    (ha : Keyed.Ascending members) (ho : Value.OrderedMembers members)
    (h : follow? members keys = some inner) :
    Keyed.Ascending inner ∧ Value.OrderedMembers inner := by
  induction keys generalizing members with
  | nil =>
    simp only [follow?, Option.some.injEq] at h
    exact h ▸ ⟨ha, ho⟩
  | cons key keys ih =>
    simp only [follow?] at h
    split at h
    · rename_i found hl
      have := ordered_of_lookup ho hl
      exact ih this.1 this.2 h
    · contradiction

/-- The group at the end of a path of keys, as a document of its own. -/
def subToken (token : DesignToken) (keys : List String) : Except Problem DesignToken :=
  match h : follow? token.members keys with
  | some inner =>
    have ok := ordered_of_follow? token.ascending token.ordered h
    .ok ⟨inner, ok.1, ok.2⟩
  | none => .error (.subtokenNotFound keys)

/-- The name of a node below a group with the accumulated name `start`: with `usePrefix` the
capitalized key is appended to it, otherwise the key is the name. -/
def nodeName (usePrefix : Bool) (start key : String) : String :=
  if usePrefix then lowerFirst (start ++ upperFirst key) else key

mutual

/-- The leaves of one member: itself, if it is a leaf, or those below it, if it is a group. -/
def collectNode (usePrefix : Bool) (name : String) : Value → List TokenValue
  | .object members =>
    match Entry.decode? (.object members) with
    -- a leaf is not searched for leaves of its own
    | some entry => [⟨name, entry⟩]
    | none => collect usePrefix name members
  | _ => []

/-- The leaves below the members of a group, in the order of the members. -/
def collect (usePrefix : Bool) (start : String) : Members → List TokenValue
  | [] => []
  | (key, node) :: rest =>
    collectNode usePrefix (nodeName usePrefix start key) node ++ collect usePrefix start rest

end

/-- The leaves of the document. With `usePrefix` their names are put together from `start` and the
keys on the way. -/
def extract (token : DesignToken) (start : String) (usePrefix : Bool) : List TokenValue :=
  collect usePrefix start token.members

/-- The leaves below a path of keys; names begin below it. -/
def values (token : DesignToken) (keys : List String) (usePrefix : Bool) :
    Except Problem (List TokenValue) :=
  (token.subToken keys).map fun group => group.extract "" usePrefix

end DesignToken

end DesignTokens

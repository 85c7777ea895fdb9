import DesignTokens.Keyed
import DesignTokens.Number.Binary64

/-!
# Values

The data that token documents, configurations and template contexts are made of. A `Value` is a
tree; the members of an object form a list. Documents keep that list in *canonical* form, which
`Value.canonical` computes and `Value.Ordered` describes: every key once, keys ascending by code
point, at every depth. `ordered_canonical` says that the form is reached.
-/

set_option autoImplicit false

namespace DesignTokens

/-- A number: an integer or a double. `1` and `1.0` are different numbers. -/
inductive Number where
  | integer (i : Int)
  | float (x : Binary64)
deriving DecidableEq, Repr, Inhabited

/-- A value as documents hold it. -/
inductive Value where
  | null
  | bool (b : Bool)
  | number (n : Number)
  | string (s : String)
  | array (items : List Value)
  | object (members : List (String × Value))
deriving Repr, Inhabited

/-- The members of an object. -/
abbrev Members := List (String × Value)

namespace Value

/-! ### Equality -/

mutual

/-- Structural equality. -/
def same : Value → Value → Bool
  | .null, .null => true
  | .bool a, .bool b => a == b
  | .number a, .number b => a == b
  | .string a, .string b => a == b
  | .array as, .array bs => sameAll as bs
  | .object as, .object bs => sameMembers as bs
  | _, _ => false

/-- Structural equality of lists of values. -/
def sameAll : List Value → List Value → Bool
  | [], [] => true
  | a :: as, b :: bs => same a b && sameAll as bs
  | _, _ => false

/-- Structural equality of members. -/
def sameMembers : Members → Members → Bool
  | [], [] => true
  | (k, a) :: as, (l, b) :: bs => k == l && (same a b && sameMembers as bs)
  | _, _ => false

end

mutual

/-- Values that compare as the same are equal. The cases follow the constructors of the first
one. -/
theorem eq_of_same : ∀ {a b : Value}, same a b = true → a = b
  | .null, b, h => by cases b <;> simp_all [same]
  | .bool _, b, h => by cases b <;> simp_all [same]
  | .number _, b, h => by cases b <;> simp_all [same]
  | .string _, b, h => by cases b <;> simp_all [same]
  | .array as, b, h => by
    cases b <;> simp [same] at h ⊢
    exact eq_of_sameAll h
  | .object as, b, h => by
    cases b <;> simp [same] at h ⊢
    exact eq_of_sameMembers h

/-- The same for lists. -/
theorem eq_of_sameAll : ∀ {as bs : List Value}, sameAll as bs = true → as = bs
  | [], [], _ => rfl
  | a :: as, b :: bs, h => by
    simp [sameAll] at h
    simp [eq_of_same h.1, eq_of_sameAll h.2]
  | [], _ :: _, h => by simp [sameAll] at h
  | _ :: _, [], h => by simp [sameAll] at h

/-- The same for the members of an object. -/
theorem eq_of_sameMembers : ∀ {as bs : Members}, sameMembers as bs = true → as = bs
  | [], [], _ => rfl
  | (k, a) :: as, (l, b) :: bs, h => by
    simp [sameMembers] at h
    simp [h.1, eq_of_same h.2.1, eq_of_sameMembers h.2.2]
  | [], _ :: _, h => by simp [sameMembers] at h
  | _ :: _, [], h => by simp [sameMembers] at h

end

mutual

/-- A value compares as the same with itself. -/
theorem same_self : ∀ a : Value, same a a = true
  | .null => rfl
  | .bool _ => by simp [same]
  | .number _ => by simp [same]
  | .string _ => by simp [same]
  | .array as => by simpa [same] using sameAll_self as
  | .object ms => by simpa [same] using sameMembers_self ms

/-- So does a list. -/
theorem sameAll_self : ∀ as : List Value, sameAll as as = true
  | [] => rfl
  | a :: as => by simp [sameAll, same_self a, sameAll_self as]

/-- So do the members of an object. -/
theorem sameMembers_self : ∀ ms : Members, sameMembers ms ms = true
  | [] => rfl
  | (_, a) :: ms => by simp [sameMembers, same_self a, sameMembers_self ms]

end

instance : DecidableEq Value := fun a b =>
  if h : same a b = true then isTrue (eq_of_same h)
  else isFalse fun e => h (e ▸ same_self a)

/-! ### Canonical form -/

mutual

/-- The value with every object sorted by key. Of a repeated key the last member stays. -/
def canonical : Value → Value
  | .array items => .array (canonicalAll items)
  | .object members => .object (canonicalMembers members)
  | .null => .null
  | .bool b => .bool b
  | .number n => .number n
  | .string s => .string s

/-- The canonical forms of a list of values. -/
def canonicalAll : List Value → List Value
  | [] => []
  | item :: items => canonical item :: canonicalAll items

/-- The members in canonical form, from the last to the first. -/
def canonicalMembers : Members → Members
  | [] => []
  | (key, value) :: rest => Keyed.insertIfNew key (canonical value) (canonicalMembers rest)

end

mutual

/-- In every object within, each key is less than all later ones. -/
def Ordered : Value → Prop
  | .array items => OrderedAll items
  | .object members => Keyed.Ascending members ∧ OrderedMembers members
  | _ => True

/-- Every value of a list is ordered. -/
def OrderedAll : List Value → Prop
  | [] => True
  | item :: items => Ordered item ∧ OrderedAll items

/-- The value of every member is ordered. -/
def OrderedMembers : Members → Prop
  | [] => True
  | (_, value) :: rest => Ordered value ∧ OrderedMembers rest

end

/-- The members of an object are ordered exactly if all their values are. -/
theorem orderedMembers_iff {members : Members} :
    OrderedMembers members ↔ ∀ member ∈ members, member.2.Ordered := by
  induction members with
  | nil => simp [OrderedMembers]
  | cons first rest ih => simp [OrderedMembers, ih]

/-- The keys of the canonical members ascend. -/
theorem ascending_canonicalMembers :
    ∀ members : Members, Keyed.Ascending (canonicalMembers members)
  | [] => trivial
  | (_, _) :: rest => Keyed.ascending_insertIfNew (ascending_canonicalMembers rest)

/-- A member that is added keeps this. -/
theorem orderedMembers_insertIfNew {key : String} {value : Value} {members : Members}
    (hv : value.Ordered) (hm : OrderedMembers members) :
    OrderedMembers (Keyed.insertIfNew key value members) := by
  rw [orderedMembers_iff] at hm ⊢
  intro member hmem
  rcases Keyed.mem_insertIfNew hmem with rfl | hmem
  · exact hv
  · exact hm member hmem

mutual

/-- The canonical form is ordered. -/
theorem ordered_canonical : ∀ value : Value, value.canonical.Ordered
  | .array items => by simpa [canonical, Ordered] using orderedAll_canonicalAll items
  | .object members => by
    simpa [canonical, Ordered] using
      ⟨ascending_canonicalMembers members, orderedMembers_canonicalMembers members⟩
  | .null => trivial
  | .bool _ => trivial
  | .number _ => trivial
  | .string _ => trivial

/-- A list in canonical form has ordered items. -/
theorem orderedAll_canonicalAll : ∀ items : List Value, OrderedAll (canonicalAll items)
  | [] => trivial
  | item :: items => ⟨ordered_canonical item, orderedAll_canonicalAll items⟩

/-- The same for the members of an object, whatever order they came in. -/
theorem orderedMembers_canonicalMembers :
    ∀ members : Members, OrderedMembers (canonicalMembers members)
  | [] => trivial
  | (_, value) :: rest =>
    orderedMembers_insertIfNew (ordered_canonical value) (orderedMembers_canonicalMembers rest)

end

/-! ### Access -/

/-- The member of an object under a key. -/
def get? (value : Value) (key : String) : Option Value :=
  match value with
  | .object members => members.lookup key
  | _ => none

/-- The text of a string. -/
def string? : Value → Option String
  | .string s => some s
  | _ => none

/-- The items of an array. -/
def items? : Value → Option (List Value)
  | .array items => some items
  | _ => none

/-- The members of an object. -/
def members? : Value → Option Members
  | .object members => some members
  | _ => none

/-- The truth value of a Boolean. -/
def bool? : Value → Option Bool
  | .bool b => some b
  | _ => none

/-- Whether the value is an object. -/
def isObject (value : Value) : Bool :=
  value.members?.isSome

/-- The strings of an array that holds nothing else. -/
def strings? (value : Value) : Option (List String) :=
  value.items? >>= fun items => items.mapM string?

/-- The integer of a number that has one and fits sixty-four signed bits. -/
def int64? : Value → Option Int
  | .number (.integer i) => if -Int.pow 2 63 ≤ i ∧ i < Int.pow 2 63 then some i else none
  | _ => none

/-- A value of an optional field: absence is null. -/
def ofOption (value : Option Value) : Value :=
  value.getD .null

/-- What a document is called that turns out to be this value. -/
def kindName : Value → String
  | .null => "null"
  | .bool _ => "a boolean"
  | .number _ => "a number"
  | .string _ => "a string"
  | .array _ => "an array"
  | .object _ => "an object"

end Value

end DesignTokens

import DesignTokens.Template.Render

/-!
# What paths mean without brackets

A path is looked up in the innermost loop, then in the loops around it, and then in what was
assigned and the context. For a path without brackets all of this depends on its first name and its
keys alone. `pathKeys` computes them, and the lemmas here rewrite `Scope.resolve` into lookups by
them: `resolve_eq` for any scope, `find?_context` outside of loops, and `find?_inside_item`,
`find?_inside_key` and `find?_inside_other` inside a loop.
-/

set_option autoImplicit false

namespace DesignTokens.Template

/-! ### Keys -/

/-- The first name of a path without brackets and the keys behind it. -/
def pathKeys (path : List Char) : List String :=
  match splitPath path with
  | (name, none) => [String.ofList name]
  | (name, some tail) => String.ofList name :: (splitKeys false [] tail).map plainKey

/-- A path without brackets, other than that of the dump, is a name with keys behind it. -/
def Spells (path name : String) (keys : List String) : Prop :=
  path.toList.contains '[' = false ∧ pathKeys path.toList = name :: keys ∧ path ≠ Scope.dumpPath

instance (path name : String) (keys : List String) : Decidable (Spells path name keys) :=
  inferInstanceAs (Decidable (_ ∧ _ ∧ _))

/-- What keys lead to inside a value. -/
def stepAll? (value : Value) (keys : List String) : Option Value :=
  keys.foldlM step? value

/-- No step leads to the value itself. -/
@[simp]
theorem stepAll?_nil (value : Value) : stepAll? value [] = some value := rfl

/-- The first step leads to the value that the others start at. -/
@[simp]
theorem stepAll?_cons (value : Value) (key : String) (keys : List String) :
    stepAll? value (key :: keys) = (step? value key).bind fun inner => stepAll? inner keys := rfl

/-- In an object, a step is the look-up of its key. -/
@[simp]
theorem step?_object (members : Members) (key : String) :
    step? (.object members) key = members.lookup key := rfl

/-- A lookup among members goes by the keys of the path. -/
theorem lookup?_eq_of_pathKeys {path : List Char} {name : String} {keys : List String}
    (h : pathKeys path = name :: keys) (members : Members) :
    lookup? members path = (members.lookup name).bind fun value => stepAll? value keys := by
  rcases hsplit : splitPath path with ⟨first, _ | tail⟩
  · simp only [pathKeys, hsplit] at h
    obtain ⟨rfl, rfl⟩ := List.cons.inj h
    simp [lookup?, hsplit]
  · simp only [pathKeys, hsplit] at h
    obtain ⟨rfl, rfl⟩ := List.cons.inj h
    simp only [lookup?, hsplit]
    rfl

/-! ### Loops -/

/-- The name `loop` is the only one under which a loop counts. -/
theorem counter?_eq_none {path name : String} {keys : List String}
    (h : pathKeys path.toList = name :: keys) (hname : name ≠ "loop") (loop : Loop) :
    loop.counter? path = none := by
  have hother (counter key : String) (hc : pathKeys counter.toList = ["loop", key]) :
      path ≠ counter := by
    intro heq
    rw [heq, hc] at h
    exact hname (List.cons.inj h).1.symm
  have hindex : path ≠ "loop.index" := hother _ "index" (by decide)
  have hindex0 : path ≠ "loop.index0" := hother _ "index0" (by decide)
  have hfirst : path ≠ "loop.first" := hother _ "first" (by decide)
  have hlast : path ≠ "loop.last" := hother _ "last" (by decide)
  simp only [Loop.counter?, if_neg hindex, if_neg hindex0, if_neg hfirst, if_neg hlast]

/-- The name of the item leads into the item. -/
theorem item?_value {path : List Char} {loop : Loop} {keys : List String}
    (h : pathKeys path = loop.valueName :: keys) :
    loop.item? path = stepAll? loop.value keys := by
  rcases hsplit : splitPath path with ⟨first, _ | tail⟩
  · simp only [pathKeys, hsplit] at h
    obtain ⟨hfirst, rfl⟩ := List.cons.inj h
    simp [Loop.item?, hsplit, hfirst]
  · simp only [pathKeys, hsplit] at h
    obtain ⟨hfirst, rfl⟩ := List.cons.inj h
    simp only [Loop.item?, hsplit, hfirst, if_true]
    rfl

/-- The name of the key means the key. -/
theorem item?_key {path : List Char} {loop : Loop} {name key : String}
    (hsplit : splitPath path = (name.toList, none)) (hkey : loop.key = some (name, key))
    (hname : name ≠ loop.valueName) : loop.item? path = some (.string key) := by
  unfold Loop.item?
  rw [hsplit]
  simp [hname, hkey]

/-- Other names mean nothing to a loop. -/
theorem item?_other {path : List Char} {loop : Loop} {name : String} {keys : List String}
    (h : pathKeys path = name :: keys) (hvalue : name ≠ loop.valueName)
    (hkey : ∀ pair ∈ loop.key, name ≠ pair.1) : loop.item? path = none := by
  rcases hsplit : splitPath path with ⟨first, _ | tail⟩
  · simp only [pathKeys, hsplit] at h
    obtain ⟨hfirst, -⟩ := List.cons.inj h
    cases hpair : loop.key with
    | none => simp [Loop.item?, hsplit, hfirst, hvalue, hpair]
    | some pair =>
      have hne : name ≠ pair.1 := hkey pair hpair
      simp [Loop.item?, hsplit, hfirst, hvalue, hpair, hne]
  · simp only [pathKeys, hsplit] at h
    obtain ⟨hfirst, -⟩ := List.cons.inj h
    simp [Loop.item?, hsplit, hfirst, hvalue]

/-! ### Scopes -/

namespace Scope

/-- The scope inside a loop. -/
def inside (scope : Scope) (loop : Loop) : Scope :=
  { scope with loops := loop :: scope.loops }

/-- What a path means, as a result. For a path without brackets the reader of paths has nothing to
do, and what is left is the look-up of its keys. -/
theorem resolve_eq {path name : String} {keys : List String} (h : Spells path name keys)
    (scope : Scope) :
    scope.resolve path =
      match scope.find? path.toList with
      | some value => .ok value
      | none => .error (.unknownVariable path) := by
  have hplain : path.toList.contains '[' = false := h.1
  cases hfind : scope.find? path.toList <;>
    simp only [resolve, h.2.2, resolveWithin, hplain, hfind, Bool.false_eq_true, if_false,
      String.ofList_toList]

/-- What a path is found to lead to is what it resolves to. -/
theorem resolve_of_find? {path name : String} {keys : List String} (h : Spells path name keys)
    {scope : Scope} {value : Value} (hfind : scope.find? path.toList = some value) :
    scope.resolve path = .ok value := by
  rw [resolve_eq h, hfind]

/-- Outside of loops, and before anything is assigned, a path leads into the context: its first name
there, and then step by step. -/
theorem find?_context {path name : String} {keys : List String} (h : Spells path name keys)
    (context : Members) :
    find? ⟨[], [], context, false⟩ path.toList =
      (context.lookup name).bind fun value => stepAll? value keys := by
  simp only [find?, lookup?_eq_of_pathKeys h.2.1]
  rfl

/-- Outside of all loops, a path leads from the context on. -/
theorem resolve_context {path name : String} {keys : List String} (h : Spells path name keys)
    {context : Members} {found value : Value} (hlookup : context.lookup name = some found)
    (hsteps : stepAll? found keys = some value) :
    resolve ⟨[], [], context, false⟩ path = .ok value := by
  apply resolve_of_find? h
  rw [find?_context h, hlookup]
  exact hsteps

/-- Inside a loop its own names come first. -/
theorem find?_inside {path name : String} {keys : List String} (h : Spells path name keys)
    (hname : name ≠ "loop") {loop : Loop} (hassigned : loop.assigned = []) (scope : Scope) :
    (scope.inside loop).find? path.toList =
      (loop.item? path.toList <|> scope.find? path.toList) := by
  have hfind : loop.find? path.toList = loop.item? path.toList := by
    simp only [Loop.find?, hassigned, lookup?_eq_of_pathKeys h.2.1, String.ofList_toList,
      counter?_eq_none h.2.1 hname]
    rfl
  simp only [find?, inside, List.findSome?_cons, hfind]
  cases loop.item? path.toList <;> rfl

/-- Inside a loop the name of the item leads into the item, as far as it leads anywhere. If it does
not, the same path is tried around the loop. -/
theorem find?_inside_item {path name : String} {keys : List String} {loop : Loop}
    (h : Spells path name keys) (hname : name ≠ "loop") (hassigned : loop.assigned = [])
    (hvalue : loop.valueName = name) (scope : Scope) :
    (scope.inside loop).find? path.toList =
      (stepAll? loop.value keys <|> scope.find? path.toList) := by
  subst hvalue
  rw [find?_inside h hname hassigned, item?_value h.2.1]

/-- Inside a loop, the name of the item leads to the value of the pass, as long as nothing was
assigned. -/
theorem resolve_inside_item {path name : String} {keys : List String} {loop : Loop}
    {value : Value} (h : Spells path name keys) (hname : name ≠ "loop")
    (hassigned : loop.assigned = []) (hvalue : loop.valueName = name)
    (hsteps : stepAll? loop.value keys = some value) (scope : Scope) :
    (scope.inside loop).resolve path = .ok value := by
  apply resolve_of_find? h
  rw [find?_inside_item h hname hassigned hvalue, hsteps]
  rfl

/-- Inside a loop the name of the key means the key. Nothing leads further from it, so the path must
be the name alone. -/
theorem find?_inside_key {path name key : String} {keys : List String} {loop : Loop}
    (h : Spells path name keys) (hname : name ≠ "loop") (hassigned : loop.assigned = [])
    (hsplit : splitPath path.toList = (name.toList, none)) (hkey : loop.key = some (name, key))
    (hvalue : name ≠ loop.valueName) (scope : Scope) :
    (scope.inside loop).find? path.toList = some (.string key) := by
  rw [find?_inside h hname hassigned, item?_key hsplit hkey hvalue]
  rfl

/-- Inside a loop any other name means what it means around the loop. With the two before this
covers all names, `loop` apart. -/
theorem find?_inside_other {path name : String} {keys : List String} {loop : Loop}
    (h : Spells path name keys) (hname : name ≠ "loop") (hassigned : loop.assigned = [])
    (hvalue : name ≠ loop.valueName) (hkey : ∀ pair ∈ loop.key, name ≠ pair.1) (scope : Scope) :
    (scope.inside loop).find? path.toList = scope.find? path.toList := by
  rw [find?_inside h hname hassigned, item?_other h.2.1 hvalue hkey]
  rfl

/-- Inside a loop the name `loop.last` tells whether the item is the last one. -/
theorem find?_inside_last {loop : Loop} (hassigned : loop.assigned = []) (scope : Scope) :
    (scope.inside loop).find? "loop.last".toList =
      some (.bool (loop.index + 1 = loop.count)) := by
  have hkeys : pathKeys "loop.last".toList = ["loop", "last"] := by decide
  have hfind :
      loop.find? "loop.last".toList = some (.bool (loop.index + 1 = loop.count)) := by
    simp only [Loop.find?, hassigned, lookup?_eq_of_pathKeys hkeys, String.ofList_toList]
    simp [Loop.counter?]
  simp only [find?, inside, List.findSome?_cons, hfind]
  rfl

end Scope

end DesignTokens.Template

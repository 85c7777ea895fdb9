import DesignTokens.Proofs.Files.Grows

/-!
# Following paths while trees change

`Leads` is the walk along a path as a relation: one constructor for each kind of step, and
`walk_eq_ok_iff` says that it is the walk. A walk looks at directories and links on its way, and
at a file or a free name only at its end. So between two trees with the same directories and links
(`Keeps`) it takes the same way, and ends in what stands there then (`Leads.again`). The growth of
a tree is such a change, and so is the removal of a file. `Leads.split` parts a walk at a directory
on its way.
-/

set_option autoImplicit false

namespace DesignTokens.FileTree

/-! ### Trees that keep directories and links -/

/-- Everything that is not a file stays. -/
structure Keeps (old new : FileTree) : Prop where
  current : new.current = old.current
  node : ∀ location node, old.node? location = some node → (∀ content, node ≠ .file content) →
    new.node? location = some node

/-- A tree keeps its own directories and links. -/
theorem Keeps.refl (tree : FileTree) : Keeps tree tree :=
  ⟨rfl, fun _ _ hnode _ => hnode⟩

/-- What is kept twice is kept. -/
theorem Keeps.trans {first second third : FileTree} (h : Keeps first second)
    (h' : Keeps second third) : Keeps first third :=
  ⟨h'.current.trans h.current,
    fun _ _ hnode hfile => h'.node _ _ (h.node _ _ hnode hfile) hfile⟩

/-- A directory is still there in a tree that keeps its folders and links. -/
theorem Keeps.directory {old new : FileTree} (h : Keeps old new) {location : Location}
    (hnode : old.node? location = some .directory) : new.node? location = some .directory :=
  h.node _ _ hnode (by simp)

/-- A link is still there as well, with its target. -/
theorem Keeps.link {old new : FileTree} (h : Keeps old new) {location : Location}
    {target : String} (hnode : old.node? location = some (.link target)) :
    new.node? location = some (.link target) :=
  h.node _ _ hnode (by simp)

/-- A tree that grows keeps its directories and links. -/
theorem Grows.keeps {old new : FileTree} (h : Grows old new) : Keeps old new :=
  ⟨h.current, fun _ _ hnode hfile => h.node?_of_not_file hnode hfile⟩

/-- A tree without one of its files. -/
theorem keeps_erase {tree : FileTree} {location : Location} {content : ByteArray}
    (h : tree.node? location = some (.file content)) : Keeps tree (tree.erase location) := by
  refine ⟨rfl, ?_⟩
  intro other node hnode hfile
  have hne : other ≠ location := by
    rintro rfl
    rw [h] at hnode
    exact hfile content (Option.some.inj hnode).symm
  rw [node?_erase_of_ne _ hne, hnode]

/-! ### Walks as derivations -/

/-- A name that a walk looks up. -/
structure Ordinary (name : String) : Prop where
  notDot : name ≠ "."
  notUp : name ≠ ".."
  notLong : name.utf8ByteSize ≤ maxName

/-- What stands under a name in a directory. -/
def placeAt (tree : FileTree) (directory : Location) (name : String) : Place :=
  match tree.node? (directory ++ [name]) with
  | some node => .found (directory ++ [name]) node
  | none => .free directory name

/-- A name leads to the node of its location, if there is one. The root is no such location, as a
name is put behind the directory. -/
theorem placeAt_eq_found_iff {tree : FileTree} {directory location : Location} {name : String}
    {node : Node} :
    tree.placeAt directory name = .found location node ↔
      location = directory ++ [name] ∧ tree.node? location = some node := by
  rw [placeAt]
  cases hnode : tree.node? (directory ++ [name]) with
  | none =>
    simp only [reduceCtorEq, false_iff, not_and]
    rintro rfl
    simp [hnode]
  | some found =>
    simp only [Place.found.injEq]
    constructor
    · rintro ⟨rfl, rfl⟩
      exact ⟨rfl, hnode⟩
    · rintro ⟨rfl, heq⟩
      exact ⟨rfl, Option.some.inj (hnode.symm.trans heq)⟩

/-- A name leads to a free place if there is no node at its location. -/
theorem placeAt_eq_free_iff {tree : FileTree} {directory inside : Location}
    {name other : String} :
    tree.placeAt directory name = .free inside other ↔
      directory = inside ∧ name = other ∧ tree.node? (inside ++ [other]) = none := by
  rw [placeAt]
  cases hnode : tree.node? (directory ++ [name]) with
  | none =>
    simp only [Place.free.injEq]
    constructor
    · rintro ⟨rfl, rfl⟩
      exact ⟨rfl, rfl, hnode⟩
    · rintro ⟨rfl, rfl, -⟩
      exact ⟨rfl, rfl⟩
  | some found =>
    simp only [reduceCtorEq, false_iff, not_and]
    rintro rfl rfl
    simp [hnode]

/-- Different names or directories are different places. -/
theorem placeAt_inj {tree : FileTree} {directory inside : Location} {name other : String}
    (h : tree.placeAt directory name = tree.placeAt inside other) :
    directory = inside ∧ name = other := by
  cases hnode : tree.node? (directory ++ [name]) with
  | none =>
    rw [placeAt_eq_free_iff.2 ⟨rfl, rfl, hnode⟩] at h
    obtain ⟨rfl, rfl, -⟩ := placeAt_eq_free_iff.1 h.symm
    exact ⟨rfl, rfl⟩
  | some node =>
    rw [placeAt_eq_found_iff.2 ⟨rfl, hnode⟩] at h
    obtain ⟨hlocation, -⟩ := placeAt_eq_found_iff.1 h.symm
    obtain ⟨rfl, heq⟩ := List.append_inj' hlocation rfl
    exact ⟨rfl, (List.cons.inj heq).1⟩

/-- Following names from a directory over a number of links leads to a place. -/
inductive Leads (tree : FileTree) (last : Bool) :
    (links : Nat) → Location → List String → Place → Prop
  | here {links : Nat} {directory : Location} :
    Leads tree last links directory [] (.found directory .directory)
  | dot {links : Nat} {directory : Location} {rest : List String} {place : Place}
    (h : Leads tree last links directory rest place) :
    Leads tree last links directory ("." :: rest) place
  | up {links : Nat} {directory : Location} {rest : List String} {place : Place}
    (h : Leads tree last links directory.dropLast rest place) :
    Leads tree last links directory (".." :: rest) place
  | down {links : Nat} {directory : Location} {name : String} {rest : List String}
    {place : Place} (hname : Ordinary name)
    (hnode : tree.node? (directory ++ [name]) = some .directory)
    (h : Leads tree last links (directory ++ [name]) rest place) :
    Leads tree last links directory (name :: rest) place
  | final {links : Nat} {directory : Location} {name : String} (hname : Ordinary name)
    (hnode : ∀ node ∈ tree.node? (directory ++ [name]), ∃ content, node = .file content) :
    Leads tree last links directory [name] (tree.placeAt directory name)
  | stay {links : Nat} {directory : Location} {name target : String} (hname : Ordinary name)
    (hlast : last = false) (hnode : tree.node? (directory ++ [name]) = some (.link target)) :
    Leads tree last links directory [name] (.found (directory ++ [name]) (.link target))
  | follow {links : Nat} {directory : Location} {name target : String} {rest : List String}
    {place : Place} (hname : Ordinary name) (hrest : (rest.isEmpty && !last) = false)
    (hnode : tree.node? (directory ++ [name]) = some (.link target))
    (h : Leads tree last links (start directory target) (steps target ++ rest) place) :
    Leads tree last (links + 1) directory (name :: rest) place

/-! ### One step -/

section
variable {tree : FileTree} {last : Bool}
  {onLink : Location → List String → Except FileFault Place} {directory : Location}
  {name : String} {rest : List String}

/-- An ordinary name is not too long. -/
theorem Ordinary.short (hname : Ordinary name) : ¬ maxName < name.utf8ByteSize :=
  Nat.not_lt.2 hname.notLong

/-- A walk goes down into a directory. -/
theorem walkFrom_down (hname : Ordinary name)
    (hnode : tree.node? (directory ++ [name]) = some .directory) :
    walkFrom tree last onLink directory (name :: rest) =
      walkFrom tree last onLink (directory ++ [name]) rest := by
  simp only [walkFrom, if_neg hname.notDot, if_neg hname.notUp, if_neg hname.short, hnode]

/-- A walk ends with its last name, at a file or at a free place. -/
theorem walkFrom_final (hname : Ordinary name)
    (hnode : ∀ node ∈ tree.node? (directory ++ [name]), ∃ content, node = .file content) :
    walkFrom tree last onLink directory [name] = .ok (tree.placeAt directory name) := by
  simp only [walkFrom, if_neg hname.notDot, if_neg hname.notUp, if_neg hname.short, placeAt]
  cases hold : tree.node? (directory ++ [name]) with
  | none => rfl
  | some node =>
    obtain ⟨content, rfl⟩ := hnode node hold
    rfl

/-- A walk that does not follow the last link ends at it. -/
theorem walkFrom_stay {target : String} (hname : Ordinary name) (hlast : last = false)
    (hnode : tree.node? (directory ++ [name]) = some (.link target)) :
    walkFrom tree last onLink directory [name] =
      .ok (.found (directory ++ [name]) (.link target)) := by
  simp only [walkFrom, if_neg hname.notDot, if_neg hname.notUp, if_neg hname.short, hnode]
  simp [hlast]

/-- Any other link is followed: the walk goes on with its target and the names that are left. -/
theorem walkFrom_follow {target : String} (hname : Ordinary name)
    (hrest : (rest.isEmpty && !last) = false)
    (hnode : tree.node? (directory ++ [name]) = some (.link target)) :
    walkFrom tree last onLink directory (name :: rest) =
      onLink (start directory target) (steps target ++ rest) := by
  simp only [walkFrom, if_neg hname.notDot, if_neg hname.notUp, if_neg hname.short, hnode, hrest,
    Bool.false_eq_true, if_false]

/-- What a walk that goes on links by `onLink` has done if it succeeds. The induction is on the
names and follows the cases of the walk. What happens behind a link is a premise, as the walk goes
on there with one link less. -/
theorem leads_of_walkFrom {links : Nat} {place : Place}
    (hlink : ∀ {directory : Location} {name target : String} {rest : List String}
      {place : Place}, Ordinary name → (rest.isEmpty && !last) = false →
      tree.node? (directory ++ [name]) = some (.link target) →
      onLink (start directory target) (steps target ++ rest) = .ok place →
      Leads tree last links directory (name :: rest) place)
    (h : walkFrom tree last onLink directory rest = .ok place) :
    Leads tree last links directory rest place := by
  induction rest generalizing directory with
  | nil =>
    cases h
    exact .here
  | cons name rest ih =>
    -- the first name goes down unless it is one of the two dotted names or too long
    by_cases hdot : name = "."
    · rw [walkFrom, if_pos hdot] at h
      exact hdot ▸ .dot (ih h)
    by_cases hup : name = ".."
    · rw [walkFrom, if_neg hdot, if_pos hup] at h
      exact hup ▸ .up (ih h)
    by_cases hlong : maxName < name.utf8ByteSize
    · rw [walkFrom, if_neg hdot, if_neg hup, if_pos hlong] at h
      cases h
    have hname : Ordinary name := ⟨hdot, hup, Nat.not_lt.1 hlong⟩
    simp only [walkFrom, if_neg hdot, if_neg hup, if_neg hlong] at h
    cases hnode : tree.node? (directory ++ [name]) with
    | none =>
      simp only [hnode] at h
      cases rest with
      | cons other rest => cases h
      | nil =>
        cases h
        have hplace : Leads tree last links directory [name] (tree.placeAt directory name) :=
          .final hname (by simp [hnode])
        simpa only [placeAt, hnode] using hplace
    | some node =>
      cases node with
      | directory =>
        simp only [hnode] at h
        exact .down hname hnode (ih h)
      | file content =>
        simp only [hnode] at h
        cases rest with
        | cons other rest => cases h
        | nil =>
          cases h
          have hplace : Leads tree last links directory [name] (tree.placeAt directory name) :=
            .final hname (by simp [hnode])
          simpa only [placeAt, hnode] using hplace
      | link target =>
        simp only [hnode] at h
        by_cases hstay : (rest.isEmpty && !last) = true
        · rw [if_pos hstay] at h
          cases h
          simp only [Bool.and_eq_true, Bool.not_eq_true', List.isEmpty_iff] at hstay
          obtain ⟨rfl, hlast⟩ := hstay
          exact .stay hname hlast hnode
        · rw [if_neg hstay] at h
          exact hlink hname (by simpa using hstay) hnode h

end

/-- A walk follows names in one way, and only its links depend on their number. -/
theorem walk_eq_walkFrom (tree : FileTree) (last : Bool) (links : Nat) :
    ∃ onLink, walk tree last links = walkFrom tree last onLink := by
  cases links with
  | zero => exact ⟨_, rfl⟩
  | succ links => exact ⟨_, rfl⟩

/-- A walk succeeds with the place that it leads to. `Leads` says where names lead without the
counter for links that makes the walk end, and with this lemma nothing else needs to look at the
counter. -/
theorem walk_eq_ok_iff {tree : FileTree} {last : Bool} {links : Nat} {directory : Location}
    {names : List String} {place : Place} :
    walk tree last links directory names = .ok place ↔
      Leads tree last links directory names place := by
  constructor
  · intro h
    -- the induction is on the links, since a walk goes on behind one with one less
    induction links generalizing directory names place with
    | zero =>
      refine leads_of_walkFrom ?_ h
      intro _ _ _ _ _ _ _ _ hlink
      cases hlink
    | succ links ih =>
      refine leads_of_walkFrom ?_ h
      intro _ _ _ _ _ hname hrest hnode hlink
      exact .follow hname hrest hnode (ih hlink)
  · intro h
    induction h with
    | @here links directory =>
      obtain ⟨onLink, hwalk⟩ := walk_eq_walkFrom tree last links
      rw [hwalk]
      rfl
    | @dot links directory rest place _ ih =>
      obtain ⟨onLink, hwalk⟩ := walk_eq_walkFrom tree last links
      rw [hwalk] at ih ⊢
      rwa [walkFrom, if_pos rfl]
    | @up links directory rest place _ ih =>
      obtain ⟨onLink, hwalk⟩ := walk_eq_walkFrom tree last links
      rw [hwalk] at ih ⊢
      rwa [walkFrom, if_neg (by decide), if_pos rfl]
    | @down links directory name rest place hname hnode _ ih =>
      obtain ⟨onLink, hwalk⟩ := walk_eq_walkFrom tree last links
      rw [hwalk] at ih ⊢
      rwa [walkFrom_down hname hnode]
    | @final links directory name hname hnode =>
      obtain ⟨onLink, hwalk⟩ := walk_eq_walkFrom tree last links
      rw [hwalk, walkFrom_final hname hnode]
    | @stay links directory name target hname hlast hnode =>
      obtain ⟨onLink, hwalk⟩ := walk_eq_walkFrom tree last links
      rw [hwalk, walkFrom_stay hname hlast hnode]
    | follow hname hrest hnode _ ih => rwa [walk, walkFrom_follow hname hrest hnode]

namespace Leads

variable {tree : FileTree} {last : Bool} {links : Nat} {directory : Location}
  {names : List String} {place : Place}

/-- A walk leads to one place. -/
theorem unique {other : Place} (h : Leads tree last links directory names place)
    (h' : Leads tree last links directory names other) : place = other := by
  have hsame := (walk_eq_ok_iff.2 h).symm.trans (walk_eq_ok_iff.2 h')
  exact Except.ok.inj hsame

/-- The walk that ends in `place` in one tree leads in another, along the same names, to the same
directory or link, or else to what stands there then, unless that is a link. -/
theorem again {new : FileTree} (hkeeps : Keeps tree new)
    (h : Leads tree last links directory names place) :
    (∃ location node, place = .found location node ∧
      (node = .directory ∨ last = false ∧ ∃ target, node = .link target) ∧
      Leads new last links directory names place) ∨
    (∃ inside name, place = tree.placeAt inside name ∧
      (∀ node ∈ tree.node? (inside ++ [name]), ∃ content, node = .file content) ∧
      ((∀ target, new.node? (inside ++ [name]) ≠ some (.link target)) →
        Leads new last links directory names (new.placeAt inside name))) := by
  induction h with
  | here => exact Or.inl ⟨_, _, rfl, Or.inl rfl, .here⟩
  | dot _ ih =>
    rcases ih with ⟨location, node, rfl, hnode, hnew⟩ | ⟨inside, name, rfl, hfile, hnew⟩
    · exact Or.inl ⟨location, node, rfl, hnode, hnew.dot⟩
    · exact Or.inr ⟨inside, name, rfl, hfile, fun hlink => (hnew hlink).dot⟩
  | up _ ih =>
    rcases ih with ⟨location, node, rfl, hnode, hnew⟩ | ⟨inside, name, rfl, hfile, hnew⟩
    · exact Or.inl ⟨location, node, rfl, hnode, hnew.up⟩
    · exact Or.inr ⟨inside, name, rfl, hfile, fun hlink => (hnew hlink).up⟩
  | down hname hdirectory _ ih =>
    have hdown := hkeeps.directory hdirectory
    rcases ih with ⟨location, node, rfl, hnode, hnew⟩ | ⟨inside, name, rfl, hfile, hnew⟩
    · exact Or.inl ⟨location, node, rfl, hnode, .down hname hdown hnew⟩
    · exact Or.inr ⟨inside, name, rfl, hfile, fun hlink => .down hname hdown (hnew hlink)⟩
  | final hname hfile =>
    rename_i links directory name
    refine Or.inr ⟨directory, name, rfl, hfile, fun hlink => ?_⟩
    -- a directory may have been made where the walk ended
    cases hnode : new.node? (directory ++ [name]) with
    | none => exact .final hname (by simp [hnode])
    | some node =>
      cases node with
      | directory =>
        have hplace : new.placeAt directory name = .found (directory ++ [name]) .directory := by
          simp only [placeAt, hnode]
        exact hplace ▸ .down hname hnode .here
      | file content => exact .final hname (by simp [hnode])
      | link target => exact absurd hnode (hlink target)
  | stay hname hlast hnode =>
    exact Or.inl ⟨_, _, rfl, Or.inr ⟨hlast, _, rfl⟩, .stay hname hlast (hkeeps.link hnode)⟩
  | follow hname hrest hlink _ ih =>
    have hfollow := hkeeps.link hlink
    rcases ih with ⟨location, node, rfl, hnode, hnew⟩ | ⟨inside, name, rfl, hfile, hnew⟩
    · exact Or.inl ⟨location, node, rfl, hnode, .follow hname hrest hfollow hnew⟩
    · refine Or.inr ⟨inside, name, rfl, hfile, fun hnone => ?_⟩
      exact .follow hname hrest hfollow (hnew hnone)

/-- A walk that ends in a directory ends there in every tree that keeps it. -/
theorem directory_again {new : FileTree} {location : Location} (hkeeps : Keeps tree new)
    (h : Leads tree last links directory names (.found location .directory)) :
    Leads new last links directory names (.found location .directory) := by
  rcases h.again hkeeps with ⟨_, _, -, -, hnew⟩ | ⟨inside, name, hplace, hfile, -⟩
  · exact hnew
  · -- no directory stood under the name that the walk ended with
    obtain ⟨rfl, hnode⟩ := placeAt_eq_found_iff.1 hplace.symm
    obtain ⟨content, heq⟩ := hfile _ hnode
    cases heq

/-- A walk that ends in a file ends with its name in a directory. -/
theorem file_cases {new : FileTree} {location : Location} {content : ByteArray}
    (hkeeps : Keeps tree new)
    (h : Leads tree last links directory names (.found location (.file content))) :
    ∃ inside name, location = inside ++ [name] ∧
      tree.node? location = some (.file content) ∧
      ((∀ target, new.node? location ≠ some (.link target)) →
        Leads new last links directory names (new.placeAt inside name)) := by
  rcases h.again hkeeps with ⟨_, _, heq, hnode, -⟩ | ⟨inside, name, hplace, -, hnew⟩
  · cases heq
    simp at hnode
  · obtain ⟨rfl, hnode⟩ := placeAt_eq_found_iff.1 hplace.symm
    exact ⟨inside, name, rfl, hnode, hnew⟩

/-- A walk that ends in a file ends in the file that stands there then. -/
theorem file_again {new : FileTree} {location : Location} {content content' : ByteArray}
    (hkeeps : Keeps tree new)
    (h : Leads tree last links directory names (.found location (.file content)))
    (hnode : new.node? location = some (.file content')) :
    Leads new last links directory names (.found location (.file content')) := by
  obtain ⟨inside, name, rfl, -, hnew⟩ := h.file_cases hkeeps
  have hplace : new.placeAt inside name = .found (inside ++ [name]) (.file content') :=
    placeAt_eq_found_iff.2 ⟨rfl, hnode⟩
  exact hplace ▸ hnew (by simp [hnode])

/-- A walk that ends at a free name ends in what stands there then. -/
theorem free_cases {new : FileTree} {inside : Location} {name : String}
    (hkeeps : Keeps tree new) (h : Leads tree last links directory names (.free inside name)) :
    tree.node? (inside ++ [name]) = none ∧
      ((∀ target, new.node? (inside ++ [name]) ≠ some (.link target)) →
        Leads new last links directory names (new.placeAt inside name)) := by
  rcases h.again hkeeps with ⟨_, _, heq, -, -⟩ | ⟨_, _, hplace, -, hnew⟩
  · cases heq
  · obtain ⟨rfl, rfl, hnode⟩ := placeAt_eq_free_iff.1 hplace.symm
    exact ⟨hnode, hnew⟩

end Leads

/-! ### Walks in two parts -/

section
variable {tree : FileTree} {last : Bool} {links : Nat} {directory : Location}
  {name : String} {rest : List String} {place : Place}

/-- A single dot leads nowhere else. -/
theorem leads_dot_iff :
    Leads tree last links directory ("." :: rest) place ↔
      Leads tree last links directory rest place := by
  obtain ⟨onLink, hwalk⟩ := walk_eq_walkFrom tree last links
  rw [← walk_eq_ok_iff, ← walk_eq_ok_iff, hwalk, walkFrom, if_pos rfl]

/-- Two dots lead to the directory above, and from the root nowhere else. -/
theorem leads_up_iff :
    Leads tree last links directory (".." :: rest) place ↔
      Leads tree last links directory.dropLast rest place := by
  obtain ⟨onLink, hwalk⟩ := walk_eq_walkFrom tree last links
  rw [← walk_eq_ok_iff, ← walk_eq_ok_iff, hwalk, walkFrom, if_neg (by decide), if_pos rfl]

/-- A name of a directory leads into it. -/
theorem leads_down_iff (hname : Ordinary name)
    (hnode : tree.node? (directory ++ [name]) = some .directory) :
    Leads tree last links directory (name :: rest) place ↔
      Leads tree last links (directory ++ [name]) rest place := by
  obtain ⟨onLink, hwalk⟩ := walk_eq_walkFrom tree last links
  rw [← walk_eq_ok_iff, ← walk_eq_ok_iff, hwalk, walkFrom_down hname hnode]

/-- A name of a link leads where its target leads, with one link less to follow. -/
theorem leads_follow_iff {target : String} (hname : Ordinary name)
    (hrest : (rest.isEmpty && !last) = false)
    (hnode : tree.node? (directory ++ [name]) = some (.link target)) :
    Leads tree last (links + 1) directory (name :: rest) place ↔
      Leads tree last links (start directory target) (steps target ++ rest) place := by
  rw [← walk_eq_ok_iff, ← walk_eq_ok_iff, walk, walkFrom_follow hname hrest hnode]

/-- A single name leads to what stands under it, if no link is followed there. -/
theorem leads_name_iff (hdot : name ≠ ".") (hup : name ≠ "..")
    (hlink : last = true → ∀ target, tree.node? (directory ++ [name]) ≠ some (.link target)) :
    Leads tree last links directory [name] place ↔
      Ordinary name ∧ place = tree.placeAt directory name := by
  constructor
  · intro h
    cases h with
    | dot => exact absurd rfl hdot
    | up => exact absurd rfl hup
    | down hname hnode hrest =>
      cases hrest
      exact ⟨hname, (placeAt_eq_found_iff.2 ⟨rfl, hnode⟩).symm⟩
    | final hname => exact ⟨hname, rfl⟩
    | stay hname _ hnode => exact ⟨hname, (placeAt_eq_found_iff.2 ⟨rfl, hnode⟩).symm⟩
    | follow _ hrest hnode => exact absurd hnode (hlink (by simpa using hrest) _)
  · rintro ⟨hname, rfl⟩
    cases hnode : tree.node? (directory ++ [name]) with
    | none => exact .final hname (by simp [hnode])
    | some node =>
      have hplace : tree.placeAt directory name = .found (directory ++ [name]) node :=
        placeAt_eq_found_iff.2 ⟨rfl, hnode⟩
      cases node with
      | directory => exact hplace ▸ .down hname hnode .here
      | file content => exact .final hname (by simp [hnode])
      -- a link at the end is found only by a walk that does not follow it
      | link target =>
        cases last with
        | false => exact hplace ▸ .stay hname rfl hnode
        | true => exact absurd hnode (hlink rfl target)

end

/-- The place is a directory, and a walk that starts with the names goes through it, with what is
left of the links. -/
def GoesThrough (tree : FileTree) (links : Nat) (directory : Location) (first : List String)
    (place : Place) : Prop :=
  ∃ inside left, place = .found inside .directory ∧ ∀ last rest place, rest ≠ [] →
    (Leads tree last links directory (first ++ rest) place ↔
      Leads tree last left inside rest place)

/-- One more step in front of the names. -/
theorem GoesThrough.of_step {tree : FileTree} {links links' : Nat} {directory directory' : Location}
    {first first' : List String} {place : Place}
    (h : GoesThrough tree links' directory' first' place)
    (hstep : ∀ last rest place, rest ≠ [] →
      (Leads tree last links directory (first ++ rest) place ↔
        Leads tree last links' directory' (first' ++ rest) place)) :
    GoesThrough tree links directory first place := by
  obtain ⟨inside, left, hplace, hleft⟩ := h
  refine ⟨inside, left, hplace, ?_⟩
  intro last rest place hrest
  exact (hstep last rest place hrest).trans (hleft last rest place hrest)

/-- A walk that ends with a dot ends in a directory, and walks with the same first names go through
it. -/
theorem Leads.split {tree : FileTree} {last : Bool} {links : Nat} {directory : Location}
    {first : List String} {place : Place}
    (h : Leads tree last links directory (first ++ ["."]) place) :
    GoesThrough tree links directory first place := by
  generalize hnames : first ++ ["."] = names at h
  induction h generalizing first with
  | here => simp at hnames
  | @dot links directory names place h ih =>
    cases first with
    | nil =>
      cases hnames
      cases h
      exact ⟨directory, links, rfl, fun _ _ _ _ => Iff.rfl⟩
    | cons name first =>
      obtain ⟨rfl, rfl⟩ := List.cons.inj hnames
      exact (ih rfl).of_step fun _ _ _ _ => leads_dot_iff
  | up h ih =>
    cases first with
    | nil => simp at hnames
    | cons name first =>
      obtain ⟨rfl, rfl⟩ := List.cons.inj hnames
      exact (ih rfl).of_step fun _ _ _ _ => leads_up_iff
  | down hname hnode h ih =>
    cases first with
    | nil => exact absurd (List.cons.inj hnames).1.symm hname.notDot
    | cons name first =>
      obtain ⟨rfl, rfl⟩ := List.cons.inj hnames
      exact (ih rfl).of_step fun _ _ _ _ => leads_down_iff hname hnode
  -- a walk that ends with a name has no dot behind it
  | final hname hnode =>
    cases first with
    | nil => exact absurd (List.cons.inj hnames).1.symm hname.notDot
    | cons name first => simp at hnames
  | stay hname hlast hnode =>
    cases first with
    | nil => exact absurd (List.cons.inj hnames).1.symm hname.notDot
    | cons name first => simp at hnames
  | follow hname hrest hnode h ih =>
    cases first with
    | nil => exact absurd (List.cons.inj hnames).1.symm hname.notDot
    | cons name first =>
      obtain ⟨rfl, rfl⟩ := List.cons.inj hnames
      -- the steps of the target stand in front of the names that are left
      refine (ih (List.append_assoc _ _ _)).of_step ?_
      intro last rest place hne
      have hempty : ((first ++ rest).isEmpty && !last) = false := by simp [hne]
      rw [List.cons_append, leads_follow_iff hname hempty hnode, ← List.append_assoc]

end DesignTokens.FileTree

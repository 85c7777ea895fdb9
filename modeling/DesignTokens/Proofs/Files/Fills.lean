import DesignTokens.Proofs.Files.Listing

/-!
# Which files were filled

`Fills allowed old new` refines the growth of a tree: a file that is not as it was is one that an
allowed path leads to in the new tree. Unlike a frame it does not depend on how paths are spelled,
so it holds in trees with links as well. Since growth keeps what paths lead to, the relation is a
preorder, and a file that no allowed path leads to is as it was (`Fills.file`).
-/

set_option autoImplicit false

namespace DesignTokens.FileTree

/-- The tree has grown, and each file in it is as it was or is one that an allowed path leads to. -/
structure Fills (allowed : String → Prop) (old new : FileTree) : Prop where
  grows : Grows old new
  slice : ∀ location, new.slice location = old.slice location ∨
    (old.slice location = [] ∧ new.slice location = [.directory]) ∨
    ∃ path, allowed path ∧ new.fileAt? path = some location

/-- Making folders fills in no file at all. -/
theorem Makes.fills {allowed : String → Prop} {old new : FileTree} (h : Makes old new) :
    Fills allowed old new := by
  refine ⟨h.grows, ?_⟩
  intro location
  rcases h.slice location with hsame | hmade
  · exact Or.inl hsame
  · exact Or.inr (Or.inl hmade)

namespace Fills

variable {allowed : String → Prop} {old new : FileTree}

/-- A tree that stays as it is fills in nothing. -/
theorem refl (tree : FileTree) : Fills allowed tree tree :=
  (Makes.refl tree).fills

/-- Files that were filled in first are still reached by their paths later on, so two changes are
one. -/
theorem trans {later : FileTree} (h : Fills allowed old new) (h' : Fills allowed new later) :
    Fills allowed old later := by
  refine ⟨h.grows.trans h'.grows, ?_⟩
  intro location
  rcases h'.slice location with hsame | ⟨hnothing, hmade⟩ | hfilled
  · rcases h.slice location with heq | hmade | ⟨path, hpath, hfile⟩
    · exact Or.inl (hsame.trans heq)
    · exact Or.inr (Or.inl (by rwa [hsame]))
    · exact Or.inr (Or.inr ⟨path, hpath, fileAt?_again h'.grows hfile⟩)
  · rcases h.slice location with heq | ⟨-, hdirectory⟩ | ⟨path, hpath, hfile⟩
    · exact Or.inr (Or.inl ⟨heq ▸ hnothing, hmade⟩)
    · simp [hnothing] at hdirectory
    · exact Or.inr (Or.inr ⟨path, hpath, fileAt?_again h'.grows hfile⟩)
  · exact Or.inr (Or.inr hfilled)

/-- More allowed paths allow more. -/
theorem mono {more : String → Prop} (h : Fills allowed old new)
    (hmore : ∀ path, allowed path → more path) : Fills more old new := by
  refine ⟨h.grows, ?_⟩
  intro location
  rcases h.slice location with hsame | hmade | ⟨path, hpath, hfile⟩
  · exact Or.inl hsame
  · exact Or.inr (Or.inl hmade)
  · exact Or.inr (Or.inr ⟨path, hmore path hpath, hfile⟩)

/-- A file is put where an allowed path leads to. -/
theorem put_file {tree : FileTree} {path : String} {inside : Location} {name : String}
    (h : WritesAt tree path inside name) (hpath : allowed path) (content : ByteArray) :
    Fills allowed tree (tree.put (inside ++ [name]) (.file content)) := by
  refine ⟨h.grows content, ?_⟩
  intro location
  by_cases heq : location = inside ++ [name]
  · refine Or.inr (Or.inr ⟨path, hpath, fileAt?_eq_some_iff.2 ⟨content, ?_⟩⟩)
    rw [heq, h.resolve_put]
  · exact Or.inl (by rw [slice_put, if_neg heq])

/-- A file that no allowed path leads to is as it was. The paths are followed in the new tree, so
that nothing needs to be known about links or spelling in the old one. -/
theorem file (h : Fills allowed old new) {location : Location} {content : ByteArray}
    (hnode : old.node? location = some (.file content))
    (hother : ∀ path, allowed path → new.fileAt? path ≠ some location) :
    new.node? location = some (.file content) := by
  have hroot := ne_nil_of_file hnode
  rw [node?_eq_head? _ hroot] at hnode ⊢
  rcases h.slice location with hsame | ⟨hnothing, -⟩ | ⟨path, hpath, hfile⟩
  · rw [hsame, hnode]
  · simp [hnothing] at hnode
  · exact absurd hfile (hother path hpath)

/-- A path below a directory reads as what stood in the directory under its name. -/
theorem read_join (h : Fills allowed old new) {directory name : String} {inside : Location}
    {content : ByteArray} (hdirectory : old.directoryAt? directory = some inside)
    (hname : ProperName name) (hnode : old.node? (inside ++ [name]) = some (.file content))
    (hother : ∀ path, allowed path → new.fileAt? path ≠ some (inside ++ [name]))
    {content' : ByteArray} (hread : new.read (Path.join directory name) = .ok content') :
    content' = content := by
  have hstays := h.file hnode hother
  obtain ⟨location, hresolve⟩ := read_eq_ok_iff.1 hread
  have hinside := directoryAt?_eq_some_iff.1 (directoryAt?_again h.grows hdirectory)
  have hlocation : location = inside ++ [name] :=
    resolve_join (by simp [hstays]) hname hinside hresolve
  have hfound := (node?_of_resolve hresolve).2
  rw [hlocation, hstays] at hfound
  cases hfound
  rfl

end Fills

end DesignTokens.FileTree

namespace DesignTokens.Action

open FileTree

/-- A path that was written leads to the file that is not as it was. -/
theorem Written.fills {allowed : String → Prop} {old new : FileTree} {path : String}
    {inside : Location} {name : String} {content : ByteArray}
    (h : Written old new path inside name content) (hpath : allowed path) :
    Fills allowed old new := by
  refine ⟨h.grows, ?_⟩
  intro location
  by_cases heq : location = inside ++ [name]
  · exact Or.inr (Or.inr ⟨path, hpath, heq ▸ fileAt?_eq_some_iff.2 ⟨content, h.resolve⟩⟩)
  · rcases h.beside location heq with hsame | hmade
    · exact Or.inl hsame
    · exact Or.inr (Or.inl hmade)

/-- What was written last stays: the path reads as it was written if no path that is filled later
leads to the same file. -/
theorem Written.read_later {allowed : String → Prop} {old new later : FileTree} {path : String}
    {inside : Location} {name : String} {content : ByteArray}
    (h : Written old new path inside name content) (hfills : Fills allowed new later)
    (hother : ∀ other location, allowed other → later.fileAt? path = some location →
      later.fileAt? other ≠ some location) :
    later.read path = .ok content := by
  have hfile : later.fileAt? path = some (inside ++ [name]) :=
    fileAt?_again hfills.grows (fileAt?_eq_some_iff.2 ⟨content, h.resolve⟩)
  have hstays : later.node? (inside ++ [name]) = some (.file content) :=
    hfills.file h.node? fun other hallowed => hother other _ hallowed hfile
  obtain ⟨content', hresolve⟩ := fileAt?_eq_some_iff.1 hfile
  have hfound := (node?_of_resolve hresolve).2
  rw [hstays] at hfound
  cases hfound
  exact read_eq_ok_iff.2 ⟨_, hresolve⟩

/-! ### Actions that fill files -/

/-- Whatever the action comes to, it fills allowed files and does nothing else to the tree. -/
def OnlyFills (allowed : String → Prop) {α : Type} (world : World) (action : Action α) : Prop :=
  Fills allowed world.tree (outcome action world).2.tree

section
variable {allowed : String → Prop} {α β : Type} {world : World}

/-- A sequence fills in the allowed paths only, if its steps do. -/
theorem OnlyFills.bind {action : Action α} {next : α → Action β}
    (haction : OnlyFills allowed world action)
    (hnext : ∀ a world', outcome action world = (.ok a, world') →
      OnlyFills allowed world' (next a)) : OnlyFills allowed world (action >>= next) :=
  tree_bind (R := Fills allowed) Fills.trans haction hnext

/-- Looking something up leaves the tree as it is. -/
theorem onlyFills_look {α : Type} (context : String) (question : FileTree → Except FileFault α) :
    OnlyFills allowed world (look context question) := by
  rw [OnlyFills, outcome_look]
  cases question world.tree <;> exact Fills.refl _

/-- The folders on the way to a file are no files, so any paths may be allowed. -/
theorem onlyFills_ensureParent (path : String) :
    OnlyFills allowed world (ensureParent path) :=
  (makes_ensureParent path world).fills

/-- A write fills in its own path. -/
theorem onlyFills_writeText {path : String} (hpath : allowed path) (content : String) :
    OnlyFills allowed world (writeText path content) := by
  apply (onlyFills_ensureParent path).bind
  intro _ between _
  rw [OnlyFills, outcome_change]
  cases hwrite : between.tree.write path content.toUTF8 with
  | error fault => exact Fills.refl _
  | ok tree =>
    obtain ⟨inside, name, hwrites, rfl⟩ := write_eq_ok_iff.1 hwrite
    exact Fills.put_file hwrites hpath _

end

end DesignTokens.Action

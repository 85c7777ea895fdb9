import DesignTokens.Files.Tree

/-!
# Trees that grow

What stands at a location is a slice of the entries of a tree (`slice`), and a change at one
location leaves the slices of all others alone (`slice_put`, `slice_erase`). `Grows old new` says
that nothing was taken away between two trees: a directory was made where nothing stood, a file
was written where nothing or a file stood, and everything else is as it was. The relation is a
preorder, and the generators work inside it, so what a path leads to at one time it leads to ever
after. `Makes old new` is the part of it that makes directories only.
-/

set_option autoImplicit false

namespace DesignTokens.FileTree

/-! ### Slices -/

/-- All that stands at a location. A tree that stands for a file system has at most one node
there, and `node?` takes the first in any case. -/
def slice (tree : FileTree) (location : Location) : List Node :=
  (tree.entries.filter fun entry => entry.1 = location).map (·.2)

/-- The working directory stays where it is when a node is put. -/
@[simp]
theorem current_put (tree : FileTree) (location : Location) (node : Node) :
    (tree.put location node).current = tree.current := rfl

/-- It stays where it is when nodes are erased. -/
@[simp]
theorem current_erase (tree : FileTree) (location : Location) :
    (tree.erase location).current = tree.current := rfl

/-- The root is no file. -/
theorem ne_nil_of_file {tree : FileTree} {location : Location} {content : ByteArray}
    (h : tree.node? location = some (.file content)) : location ≠ [] := by
  rintro rfl
  cases h

/-- The node at a location is the first of its slice. Later entries for the same location are
hidden, and the root has no entry at all. -/
theorem node?_eq_head? (tree : FileTree) {location : Location} (h : location ≠ []) :
    tree.node? location = (tree.slice location).head? := by
  cases location with
  | nil => exact absurd rfl h
  | cons name names =>
    have hlookup : ∀ entries : List (Location × Node),
        entries.lookup (name :: names) =
          ((entries.filter fun entry => entry.1 = name :: names).map (·.2)).head? := by
      intro entries
      induction entries with
      | nil => rfl
      | cons entry entries ih =>
        obtain ⟨other, node⟩ := entry
        rw [List.lookup_cons]
        by_cases heq : other = name :: names
        · simp [heq]
        · have hne : ((name :: names) == other) = false := by simpa using Ne.symm heq
          simp [hne, heq, ih]
    exact hlookup tree.entries

/-- What is erased is gone, and all other locations are as they were. A slice holds everything that
is entered for a location, also entries that are hidden by an earlier one. -/
theorem slice_erase (tree : FileTree) (location other : Location) :
    (tree.erase location).slice other = if other = location then [] else tree.slice other := by
  by_cases h : other = location
  · subst h
    simp [slice, erase, List.filter_filter]
  · have hfilter : (tree.entries.filter fun entry => entry.1 ≠ location).filter
        (fun entry => entry.1 = other) = tree.entries.filter fun entry => entry.1 = other := by
      rw [List.filter_filter]
      apply List.filter_congr
      intro entry _
      by_cases heq : entry.1 = other
      · simp [heq, h]
      · simp [heq]
    simp only [slice, erase, if_neg h, hfilter]

/-- What is put stands alone at its location, and all other locations are as they were. With
`slice_erase` this is all that the relations between trees know about the two changes. -/
theorem slice_put (tree : FileTree) (location other : Location) (node : Node) :
    (tree.put location node).slice other =
      if other = location then [node] else tree.slice other := by
  -- a node is put in front of what is left without the location
  have hput : (tree.put location node).slice other =
      (if location = other then [node] else []) ++ (tree.erase location).slice other := by
    by_cases h : location = other <;> simp [slice, put, erase, h]
  rw [hput, slice_erase]
  by_cases h : other = location
  · simp [h]
  · simp [h, Ne.symm h]

/-- A node that is put is found again. The root is left out, as it is always a directory. -/
@[simp]
theorem node?_put_self (tree : FileTree) {location : Location} (h : location ≠ [])
    (node : Node) : (tree.put location node).node? location = some node := by
  rw [node?_eq_head? _ h, slice_put]
  simp

/-- Putting a node changes no other location. -/
theorem node?_put_of_ne (tree : FileTree) {location other : Location} (h : other ≠ location)
    (node : Node) : (tree.put location node).node? other = tree.node? other := by
  by_cases hroot : other = []
  · subst hroot
    rfl
  · rw [node?_eq_head? _ hroot, node?_eq_head? _ hroot, slice_put, if_neg h]

/-- Of two nodes that are put at a location the last counts. -/
@[simp]
theorem put_put (tree : FileTree) (location : Location) (first last : Node) :
    (tree.put location first).put location last = tree.put location last := by
  simp [put, List.filter_filter]

/-- It does not matter whether a node that is replaced was removed before. -/
@[simp]
theorem put_erase (tree : FileTree) (location : Location) (node : Node) :
    (tree.erase location).put location node = tree.put location node := by
  simp [put, erase, List.filter_filter]

/-- Elsewhere an erasure changes nothing. -/
theorem node?_erase_of_ne (tree : FileTree) {location other : Location} (h : other ≠ location) :
    (tree.erase location).node? other = tree.node? other := by
  by_cases hroot : other = []
  · subst hroot
    rfl
  · rw [node?_eq_head? _ hroot, node?_eq_head? _ hroot, slice_erase, if_neg h]

/-- At its location an erasure leaves nothing. -/
theorem node?_erase_self (tree : FileTree) {location : Location} (h : location ≠ []) :
    (tree.erase location).node? location = none := by
  rw [node?_eq_head? _ h, slice_erase, if_pos rfl]
  rfl

/-- Where no node is found, none is recorded. -/
theorem slice_eq_nil {tree : FileTree} {location : Location} (h : tree.node? location = none) :
    tree.slice location = [] := by
  cases location with
  | nil => cases h
  | cons name names =>
    rw [node?_eq_head? _ (by simp)] at h
    simpa using h

/-! ### Growth -/

/-- Nothing is taken away: each location is as it was, or a directory was made there where
nothing stood, or a file was written where nothing or a file stood. -/
structure Grows (old new : FileTree) : Prop where
  current : new.current = old.current
  slice : ∀ location,
    new.slice location = old.slice location ∨
      (old.slice location = [] ∧ new.slice location = [.directory]) ∨
      ((∀ node ∈ (old.slice location).head?, ∃ content, node = .file content) ∧
        ∃ content, new.slice location = [.file content])

namespace Grows

/-- A tree grows from itself. -/
theorem refl (tree : FileTree) : Grows tree tree :=
  ⟨rfl, fun _ => Or.inl rfl⟩

/-- Growth adds up: what the first change made or rewrote is still there after the second one,
possibly with other bytes. -/
theorem trans {first second third : FileTree} (h : Grows first second)
    (h' : Grows second third) : Grows first third := by
  refine ⟨h'.current.trans h.current, ?_⟩
  intro location
  rcases h'.slice location with hsame | ⟨hnothing, hmade⟩ | ⟨hfile, content, hwritten⟩
  · rw [hsame]
    exact h.slice location
  · rcases h.slice location with heq | ⟨-, hdirectory⟩ | ⟨-, content, hwritten⟩
    · exact Or.inr (Or.inl ⟨heq ▸ hnothing, hmade⟩)
    · simp [hnothing] at hdirectory
    · simp [hnothing] at hwritten
  · rcases h.slice location with heq | ⟨hnothing, hdirectory⟩ | ⟨hbefore, -⟩
    · exact Or.inr (Or.inr ⟨heq ▸ hfile, content, hwritten⟩)
    · -- a directory that was made is never written over
      simp [hdirectory] at hfile
    · exact Or.inr (Or.inr ⟨hbefore, content, hwritten⟩)

/-- Writing a file over nothing or over a file. -/
theorem put_file {tree : FileTree} {location : Location} (content : ByteArray)
    (hroot : location ≠ [])
    (h : ∀ node ∈ tree.node? location, ∃ old, node = .file old) :
    Grows tree (tree.put location (.file content)) := by
  refine ⟨rfl, ?_⟩
  intro other
  rw [slice_put]
  by_cases heq : other = location
  · subst heq
    rw [if_pos rfl]
    rw [node?_eq_head? _ hroot] at h
    exact Or.inr (Or.inr ⟨h, content, rfl⟩)
  · rw [if_neg heq]
    exact Or.inl rfl

/-! ### What stays -/

section
variable {old new : FileTree}

/-- Something other than a file stays what it is. -/
theorem node?_of_not_file (h : Grows old new) {location : Location} {node : Node}
    (hnode : old.node? location = some node) (hfile : ∀ content, node ≠ .file content) :
    new.node? location = some node := by
  by_cases hroot : location = []
  · subst hroot
    exact hnode
  rw [node?_eq_head? _ hroot] at hnode ⊢
  rcases h.slice location with hsame | ⟨hnothing, -⟩ | ⟨hbefore, -⟩
  · rw [hsame, hnode]
  · simp [hnothing] at hnode
  · obtain ⟨content, hcontent⟩ := hbefore node hnode
    exact absurd hcontent (hfile content)

/-- A directory stays one while the tree grows. -/
theorem directory (h : Grows old new) {location : Location}
    (hnode : old.node? location = some .directory) : new.node? location = some .directory :=
  h.node?_of_not_file hnode (by simp)

/-- A link stays while the tree grows, with its target. -/
theorem link (h : Grows old new) {location : Location} {target : String}
    (hnode : old.node? location = some (.link target)) :
    new.node? location = some (.link target) :=
  h.node?_of_not_file hnode (by simp)

/-- A file stays a file. -/
theorem file (h : Grows old new) {location : Location} {content : ByteArray}
    (hnode : old.node? location = some (.file content)) :
    ∃ content', new.node? location = some (.file content') := by
  have hroot := ne_nil_of_file hnode
  rw [node?_eq_head? _ hroot] at hnode ⊢
  rcases h.slice location with hsame | ⟨hnothing, -⟩ | ⟨-, content', hwritten⟩
  · exact ⟨content, by rw [hsame, hnode]⟩
  · simp [hnothing] at hnode
  · exact ⟨content', by rw [hwritten]; rfl⟩

/-- A directory that stands alone does so ever after. -/
theorem slice_directory (h : Grows old new) {location : Location}
    (hslice : old.slice location = [.directory]) : new.slice location = [.directory] := by
  rcases h.slice location with hsame | ⟨hnothing, -⟩ | ⟨hbefore, -⟩
  · rw [hsame, hslice]
  · simp [hslice] at hnothing
  · simp [hslice] at hbefore

end

end Grows

/-! ### Making directories -/

/-- Directories were made where nothing stood, and everything else is as it was. -/
structure Makes (old new : FileTree) : Prop where
  current : new.current = old.current
  slice : ∀ location,
    new.slice location = old.slice location ∨
      (old.slice location = [] ∧ new.slice location = [.directory])

namespace Makes

/-- Making nothing leaves the tree as it is. -/
theorem refl (tree : FileTree) : Makes tree tree :=
  ⟨rfl, fun _ => Or.inl rfl⟩

/-- Directories may be made in several steps. -/
theorem trans {first second third : FileTree} (h : Makes first second)
    (h' : Makes second third) : Makes first third := by
  refine ⟨h'.current.trans h.current, ?_⟩
  intro location
  rcases h'.slice location with hsame | ⟨hnothing, hmade⟩
  · rw [hsame]
    exact h.slice location
  · rcases h.slice location with heq | ⟨-, hdirectory⟩
    · exact Or.inr ⟨heq ▸ hnothing, hmade⟩
    · simp [hnothing] at hdirectory

/-- Where directories are made, the tree grows. -/
theorem grows {old new : FileTree} (h : Makes old new) : Grows old new := by
  refine ⟨h.current, ?_⟩
  intro location
  rcases h.slice location with hsame | hmade
  · exact Or.inl hsame
  · exact Or.inr (Or.inl hmade)

/-- A directory may be made where nothing stands. -/
theorem put_directory {tree : FileTree} {location : Location}
    (h : tree.node? location = none) : Makes tree (tree.put location .directory) := by
  refine ⟨rfl, ?_⟩
  intro other
  rw [slice_put]
  by_cases heq : other = location
  · subst heq
    rw [if_pos rfl]
    exact Or.inr ⟨slice_eq_nil h, rfl⟩
  · rw [if_neg heq]
    exact Or.inl rfl

end Makes

end DesignTokens.FileTree

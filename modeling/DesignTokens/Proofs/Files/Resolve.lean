import DesignTokens.Proofs.Files.Walk
import DesignTokens.Proofs.Result

/-!
# What paths lead to

The questions about a path, each as the walk behind it. What they say of a directory they say in
every tree that keeps it (`isDirectory_again`), and what they say of a file in every tree that has
a file there (`resolve_file_again`). A path with a last name leads to what stands under that name
in the directory before it (`lastStep_eq_ok_iff`).
-/

set_option autoImplicit false

namespace DesignTokens.FileTree

/-! ### Paths -/

section
variable {tree : FileTree} {path : String}

/-- A path has a place exactly if it is a possible path and the walk from its start leads there. -/
theorem place_eq_ok_iff {last : Bool} {place : Place} :
    tree.place last path = .ok place ↔
      checkPath path = .ok () ∧
        Leads tree last maxLinks (start tree.current path) (steps path) place := by
  rw [FileTree.place, Result.check_eq_ok_iff, walk_eq_ok_iff]

/-- A path resolves to the node at its place, if one was found. -/
theorem resolve_eq_ok_iff {location : Location} {node : Node} :
    tree.resolve path = .ok (location, node) ↔
      tree.place true path = .ok (.found location node) := by
  rw [resolve, Result.bind_eq_ok_iff]
  constructor
  · rintro ⟨place, hplace, hfound⟩
    cases place with
    | found => cases hfound; exact hplace
    | free => cases hfound
  · exact fun h => ⟨_, h, rfl⟩

/-- The last step of a path is a name in a directory that the steps before it lead to. -/
theorem lastStep_eq_ok_iff {dots : FileFault} {inside : Location} {name : String} :
    tree.lastStep dots path = .ok (inside, name) ↔
      checkPath path = .ok () ∧ ∃ before, components path = before ++ [name] ∧
        Leads tree true maxLinks (start tree.current path) (before ++ ["."])
          (.found inside .directory) ∧ name ≠ "." ∧ name ≠ ".." := by
  rw [lastStep, Result.check_eq_ok_iff]
  refine and_congr_right fun _ => ?_
  -- the last component is cut off from behind
  cases hreverse : (components path).reverse with
  | nil =>
    have hempty : components path = [] := by simpa using hreverse
    simp [hempty]
  | cons final before =>
    have hcomponents : components path = before.reverse ++ [final] := by
      simpa using congrArg List.reverse hreverse
    rw [Result.bind_eq_ok_iff]
    constructor
    · rintro ⟨place, hplace, hstep⟩
      cases place with
      | free => cases hstep
      | found location node =>
        by_cases hdots : (final = "." || final = "..") = true
        · simp only [hdots, if_true] at hstep
          cases hstep
        · simp only [hdots] at hstep
          cases hstep
          have hleads := walk_eq_ok_iff.1 hplace
          obtain ⟨_, _, heq, -⟩ := hleads.split
          cases heq
          exact ⟨before.reverse, hcomponents, hleads, by simpa using hdots⟩
    · rintro ⟨names, hnames, hleads, hdot, hup⟩
      rw [hcomponents] at hnames
      obtain ⟨rfl, heq⟩ := List.append_inj' hnames rfl
      cases heq
      refine ⟨_, walk_eq_ok_iff.2 hleads, ?_⟩
      simp [hdot, hup, pure, Except.pure]

/-- A path is one of a directory exactly if it resolves to a directory. -/
theorem isDirectory_eq_true_iff :
    tree.isDirectory path = true ↔ ∃ location, tree.resolve path = .ok (location, .directory) := by
  rw [isDirectory]
  rcases tree.resolve path with fault | ⟨location, node⟩
  · simp
  · cases node <;> simp

/-- A path is one of a file exactly if it resolves to a file, behind all links. -/
theorem isFile_eq_true_iff :
    tree.isFile path = true ↔
      ∃ location content, tree.resolve path = .ok (location, .file content) := by
  rw [isFile]
  rcases tree.resolve path with fault | ⟨location, node⟩
  · simp
  · cases node <;> simp

/-- Something is present under a path if it resolves at all. -/
theorem present_eq_true_iff :
    tree.present path = true ↔ ∃ location node, tree.resolve path = .ok (location, node) := by
  rw [present]
  rcases tree.resolve path with fault | ⟨location, node⟩
  · simp
  · simp

/-- Reading succeeds exactly where the path resolves to a file, and it gives the bytes of this
file. -/
theorem read_eq_ok_iff {content : ByteArray} :
    tree.read path = .ok content ↔
      ∃ location, tree.resolve path = .ok (location, .file content) := by
  rw [read, Result.bind_eq_ok_iff]
  constructor
  · rintro ⟨⟨location, node⟩, hresolve, hread⟩
    cases node with
    | directory => cases hread
    | link target => cases hread
    | file found =>
      cases hread
      exact ⟨location, hresolve⟩
  · rintro ⟨location, hresolve⟩
    exact ⟨_, hresolve, rfl⟩

/-- Where the file is that a path leads to. -/
def fileAt? (tree : FileTree) (path : String) : Option Location :=
  match tree.resolve path with
  | .ok (location, .file _) => some location
  | _ => none

/-- The file of a path is the one that it resolves to. -/
theorem fileAt?_eq_some_iff {location : Location} :
    tree.fileAt? path = some location ↔
      ∃ content, tree.resolve path = .ok (location, .file content) := by
  rw [fileAt?]
  rcases tree.resolve path with fault | ⟨found, node⟩
  · simp
  · cases node <;> simp

/-- What a path leads to stands there, unless it is a directory. -/
theorem node?_of_resolve {location : Location} {content : ByteArray}
    (h : tree.resolve path = .ok (location, .file content)) :
    location ≠ [] ∧ tree.node? location = some (.file content) := by
  obtain ⟨-, hleads⟩ := place_eq_ok_iff.1 (resolve_eq_ok_iff.1 h)
  obtain ⟨inside, name, rfl, hnode, -⟩ := hleads.file_cases (Keeps.refl tree)
  exact ⟨by simp, hnode⟩

/-- No path leads to a link. -/
theorem resolve_ne_link {location : Location} {target : String} :
    tree.resolve path ≠ .ok (location, .link target) := by
  intro h
  obtain ⟨-, hleads⟩ := place_eq_ok_iff.1 (resolve_eq_ok_iff.1 h)
  rcases hleads.again (Keeps.refl tree) with
    ⟨_, node, heq, hnode, -⟩ | ⟨inside, name, hplace, hfile, -⟩
  · cases heq
    simp at hnode
  · obtain ⟨rfl, hnode⟩ := placeAt_eq_found_iff.1 hplace.symm
    obtain ⟨content, heq⟩ := hfile _ hnode
    cases heq

end

/-! ### The same path in another tree -/

section
variable {old new : FileTree} (hkeeps : Keeps old new) {path : String}
include hkeeps

/-- A path names in both trees what the walk from the same directory leads to. -/
theorem place_again {last : Bool} {place place' : Place} (h : old.place last path = .ok place)
    (hagain : ∀ {links directory names}, Leads old last links directory names place →
      Leads new last links directory names place') :
    new.place last path = .ok place' := by
  obtain ⟨hpath, hleads⟩ := place_eq_ok_iff.1 h
  apply place_eq_ok_iff.2 ⟨hpath, ?_⟩
  rw [hkeeps.current]
  exact hagain hleads

/-- A path to a directory still leads there, if folders and links were kept. -/
theorem resolve_directory_again {location : Location}
    (h : old.resolve path = .ok (location, .directory)) :
    new.resolve path = .ok (location, .directory) :=
  resolve_eq_ok_iff.2 (place_again hkeeps (resolve_eq_ok_iff.1 h) (·.directory_again hkeeps))

/-- A path to a folder still leads there in a tree that keeps its folders and links, so it is still
one of a directory. -/
theorem isDirectory_again (h : old.isDirectory path = true) : new.isDirectory path = true := by
  obtain ⟨location, hresolve⟩ := isDirectory_eq_true_iff.1 h
  exact isDirectory_eq_true_iff.2 ⟨location, resolve_directory_again hkeeps hresolve⟩

/-- A path to a file still leads there, with the bytes that the file has then. What is kept of the
tree are the folders and links on the way; the content of the file is a premise of its own, as it
may have changed. -/
theorem resolve_file_again {location : Location} {content content' : ByteArray}
    (h : old.resolve path = .ok (location, .file content))
    (hnode : new.node? location = some (.file content')) :
    new.resolve path = .ok (location, .file content') :=
  resolve_eq_ok_iff.2 (place_again hkeeps (resolve_eq_ok_iff.1 h) (·.file_again hkeeps hnode))

/-- A free name is found when something stands there, unless that is a link. -/
theorem place_free_again {inside : Location} {name : String}
    (h : old.place true path = .ok (.free inside name))
    (hlink : ∀ target, new.node? (inside ++ [name]) ≠ some (.link target)) :
    new.place true path = .ok (new.placeAt inside name) :=
  place_again hkeeps h fun hleads => (hleads.free_cases hkeeps).2 hlink

/-- A file is found again, or its name in the directory. -/
theorem place_file_again {inside : Location} {name : String} {content : ByteArray}
    (h : old.place true path = .ok (.found (inside ++ [name]) (.file content)))
    (hlink : ∀ target, new.node? (inside ++ [name]) ≠ some (.link target)) :
    new.place true path = .ok (new.placeAt inside name) := by
  apply place_again hkeeps h
  intro links directory names hleads
  obtain ⟨inside', name', hsame, -, hnew⟩ := hleads.file_cases hkeeps
  obtain ⟨rfl, heq⟩ := List.append_inj' hsame rfl
  cases heq
  exact hnew hlink

/-- The last step of a path is still the same. -/
theorem lastStep_again {dots dots' : FileFault} {inside : Location} {name : String}
    (h : old.lastStep dots path = .ok (inside, name)) :
    new.lastStep dots' path = .ok (inside, name) := by
  obtain ⟨hpath, before, hnames, hleads, hname⟩ := lastStep_eq_ok_iff.1 h
  apply lastStep_eq_ok_iff.2 ⟨hpath, before, hnames, ?_, hname⟩
  rw [hkeeps.current]
  exact hleads.directory_again hkeeps

end

/-! ### The same path in a tree that has grown -/

/-- The file of a path is still the same when the tree has grown. -/
theorem fileAt?_again {old new : FileTree} (hgrows : Grows old new) {path : String}
    {location : Location} (h : old.fileAt? path = some location) :
    new.fileAt? path = some location := by
  obtain ⟨content, hresolve⟩ := fileAt?_eq_some_iff.1 h
  obtain ⟨content', hnode⟩ := hgrows.file (node?_of_resolve hresolve).2
  exact fileAt?_eq_some_iff.2 ⟨content', resolve_file_again hgrows.keeps hresolve hnode⟩

/-- A question stays answered with yes while a tree grows. -/
def Persists (question : FileTree → Bool) : Prop :=
  ∀ old new, Grows old new → question old = true → question new = true

/-- That a path leads to a file persists while the tree grows. -/
theorem persists_isFile (path : String) : Persists (·.isFile path) := by
  intro old new hgrows h
  obtain ⟨location, hfile⟩ := isFile_eq_true_iff.1 h
  obtain ⟨content, hresolve⟩ := fileAt?_eq_some_iff.1 (fileAt?_again hgrows
    (fileAt?_eq_some_iff.2 hfile))
  exact isFile_eq_true_iff.2 ⟨location, content, hresolve⟩

/-- That a path leads anywhere persists while the tree grows. -/
theorem persists_present (path : String) : Persists (·.present path) := by
  intro old new hgrows h
  obtain ⟨location, node, hresolve⟩ := present_eq_true_iff.1 h
  cases node with
  | directory =>
    exact present_eq_true_iff.2 ⟨_, _, resolve_directory_again hgrows.keeps hresolve⟩
  | file content =>
    have hfile := fileAt?_again hgrows (fileAt?_eq_some_iff.2 ⟨content, hresolve⟩)
    obtain ⟨content', hagain⟩ := fileAt?_eq_some_iff.1 hfile
    exact present_eq_true_iff.2 ⟨_, _, hagain⟩
  | link target => exact absurd hresolve resolve_ne_link

end DesignTokens.FileTree

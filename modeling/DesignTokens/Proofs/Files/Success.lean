import DesignTokens.Proofs.Files.Outcome
import DesignTokens.Proofs.Files.Write

/-!
# Successful actions on files

What the actions that write a file have done if they succeed. `Written old new path inside name
content` says it: the file stands where the path leads to, and everywhere else nothing happened but
that directories were made. `writeText_spec` and `replaceFile_spec` establish it, and the same
action succeeds again in every later tree with a file in that place (`writeText_again`,
`replaceFile_again`).
-/

set_option autoImplicit false

namespace DesignTokens.Action

open FileTree

/-! ### Steps -/

section
variable {α : Type} {context : String} {world world' : World}

/-- A look at the tree succeeds exactly if its question has an answer, and it leaves the world
alone. -/
theorem outcome_look_ok_iff {question : FileTree → Except FileFault α} {a : α} :
    outcome (look context question) world = (.ok a, world') ↔
      question world.tree = .ok a ∧ world' = world := by
  rw [outcome_look]
  cases question world.tree with
  | error fault => simp
  | ok found =>
    simp only [Prod.mk.injEq, Except.ok.injEq]
    exact ⟨fun h => ⟨h.1, h.2.symm⟩, fun h => ⟨h.1, h.2.symm⟩⟩

/-- A change succeeds exactly if its step gives a tree, which then replaces the old one. -/
theorem outcome_change_ok_iff {step : FileTree → Except FileFault FileTree} :
    outcome (change context step) world = (.ok (), world') ↔
      ∃ tree, step world.tree = .ok tree ∧ world' = { world with tree } := by
  rw [outcome_change]
  cases step world.tree with
  | error fault => simp
  | ok tree => simp [eq_comm]

end

/-! ### Directories -/

/-- The directory that a path lies in is there, or needs not to be. -/
def ParentThere (tree : FileTree) (path : String) : Prop :=
  ∀ parent ∈ Path.parent? path, parent = "" ∨ tree.isDirectory parent = true

/-- Folders that are there are still there when the tree has only grown. -/
theorem ParentThere.again {old new : FileTree} {path : String} (h : ParentThere old path)
    (hkeeps : Keeps old new) : ParentThere new path := by
  intro parent hparent
  rcases h parent hparent with hempty | hdirectory
  · exact Or.inl hempty
  · exact Or.inr (isDirectory_again hkeeps hdirectory)

section
variable {path : String} {world world' : World}

/-- After a folder was made sure of, it is there, only folders were made, and nothing was
reported. -/
theorem ensureDirectory_spec (h : outcome (ensureDirectory path) world = (.ok (), world')) :
    Makes world.tree world'.tree ∧ world'.log = world.log ∧
      (path = "" ∨ world'.tree.isDirectory path = true) := by
  rw [outcome_ensureDirectory] at h
  by_cases hpresent : world.tree.present path = true
  · rw [if_pos hpresent] at h
    by_cases hdirectory : world.tree.isDirectory path = true
    · rw [if_pos hdirectory] at h
      cases h
      exact ⟨Makes.refl _, rfl, Or.inr hdirectory⟩
    · rw [if_neg hdirectory] at h
      cases h
  · rw [if_neg hpresent] at h
    obtain ⟨hmakes, hdirectory⟩ := makeDirectories_spec world.tree path (path.length + 1)
    rcases hmade : world.tree.makeDirectories path (path.length + 1) with ⟨tree, fault | ⟨⟩⟩
    · rw [hmade] at h
      cases h
    · rw [hmade] at h hmakes hdirectory
      cases h
      exact ⟨hmakes, rfl, hdirectory rfl⟩

/-- Nothing is made where a directory is already. -/
theorem ensureDirectory_again (h : path = "" ∨ world.tree.isDirectory path = true) :
    outcome (ensureDirectory path) world = (.ok (), world) := by
  rw [outcome_ensureDirectory]
  rcases h with rfl | hdirectory
  · -- the empty path leads nowhere, and there is nothing to make for it
    have habsent : world.tree.present "" = false := rfl
    rw [habsent, if_neg (by simp)]
    rfl
  · obtain ⟨location, hresolve⟩ := isDirectory_eq_true_iff.1 hdirectory
    rw [if_pos (present_eq_true_iff.2 ⟨location, _, hresolve⟩), if_pos hdirectory]

/-- Nothing but directories is made for a path, also if not all can be made. -/
theorem makes_ensureParent (path : String) (world : World) :
    Makes world.tree (outcome (ensureParent path) world).2.tree := by
  unfold ensureParent
  split
  · rename_i parent _
    have hmakes := (makeDirectories_spec world.tree parent (parent.length + 1)).1
    rw [outcome_ensureDirectory]
    split
    · split <;> exact Makes.refl _
    · rcases hresult : world.tree.makeDirectories parent (parent.length + 1) with
        ⟨tree, fault | ⟨⟩⟩ <;> rw [hresult] at hmakes <;> exact hmakes
  · exact Makes.refl _

/-- The same for the folder that a file is to go into. -/
theorem ensureParent_spec (h : outcome (ensureParent path) world = (.ok (), world')) :
    Makes world.tree world'.tree ∧ world'.log = world.log ∧ ParentThere world'.tree path := by
  rw [ensureParent] at h
  cases hparent : Path.parent? path with
  | none =>
    simp only [hparent, outcome_pure, Prod.mk.injEq, true_and] at h
    subst h
    exact ⟨Makes.refl _, rfl, by simp [ParentThere, hparent]⟩
  | some parent =>
    simp only [hparent] at h
    obtain ⟨hmakes, hlog, hdirectory⟩ := ensureDirectory_spec h
    exact ⟨hmakes, hlog, by simpa [ParentThere, hparent] using hdirectory⟩

/-- If the folder is there, making sure of it does nothing. -/
theorem ensureParent_again (h : ParentThere world.tree path) :
    outcome (ensureParent path) world = (.ok (), world) := by
  rw [ensureParent]
  cases hparent : Path.parent? path with
  | none => rfl
  | some parent => exact ensureDirectory_again (h parent hparent)

end

/-! ### Files -/

/-- A file was written where a path leads to, and besides directories were made at most. -/
structure Written (old new : FileTree) (path : String) (inside : Location) (name : String)
    (content : ByteArray) : Prop where
  current : new.current = old.current
  replaced : ∀ node ∈ old.node? (inside ++ [name]), ∃ content', node = .file content'
  beside : ∀ location, location ≠ inside ++ [name] →
    new.slice location = old.slice location ∨
      (old.slice location = [] ∧ new.slice location = [.directory])
  here : new.slice (inside ++ [name]) = [.file content]
  writesAt : WritesAt new path inside name
  parent : ParentThere new path

namespace Written

variable {old new : FileTree} {path : String} {inside : Location} {name : String}
  {content : ByteArray}

/-- A write loses no file or folder. -/
theorem grows (h : Written old new path inside name content) : Grows old new := by
  refine ⟨h.current, ?_⟩
  intro location
  by_cases heq : location = inside ++ [name]
  · subst heq
    have hreplaced := h.replaced
    rw [node?_eq_head? _ (by simp)] at hreplaced
    exact Or.inr (Or.inr ⟨hreplaced, content, h.here⟩)
  · rcases h.beside location heq with hsame | hmade
    · exact Or.inl hsame
    · exact Or.inr (Or.inl hmade)

/-- What was written is there afterwards. -/
theorem node? (h : Written old new path inside name content) :
    new.node? (inside ++ [name]) = some (.file content) := by
  rw [node?_eq_head? _ (by simp), h.here]
  rfl

/-- The path that was written leads to the file with its new content. -/
theorem resolve (h : Written old new path inside name content) :
    new.resolve path = .ok (inside ++ [name], .file content) :=
  h.writesAt.resolve (Keeps.refl new) h.node?

/-- Another file is as it was. -/
theorem file_of_ne (h : Written old new path inside name content) {location : Location}
    {content' : ByteArray} (hne : location ≠ inside ++ [name])
    (hnode : old.node? location = some (.file content')) :
    new.node? location = some (.file content') := by
  have hroot := ne_nil_of_file hnode
  rw [node?_eq_head? _ hroot] at hnode ⊢
  rcases h.beside location hne with hsame | ⟨hnothing, -⟩
  · rw [hsame, hnode]
  · simp [hnothing] at hnode

/-- A file is put into a tree that has the directories for it. -/
theorem of_put {made : FileTree} (hcurrent : made.current = old.current)
    (hreplaced : ∀ node ∈ old.node? (inside ++ [name]), ∃ content', node = .file content')
    (hbeside : ∀ location, location ≠ inside ++ [name] →
      made.slice location = old.slice location ∨
        (old.slice location = [] ∧ made.slice location = [.directory]))
    (hparent : ParentThere made path) (hwrites : WritesAt made path inside name)
    (content : ByteArray) :
    Written old (made.put (inside ++ [name]) (.file content)) path inside name content := by
  have hkeeps := (hwrites.grows content).keeps
  refine ⟨hcurrent, hreplaced, ?_, by rw [slice_put, if_pos rfl], hwrites.again hkeeps (by simp),
    hparent.again hkeeps⟩
  intro location hne
  rw [slice_put, if_neg hne]
  exact hbeside location hne

/-- A write that makes the folders first is one write of the file, as seen from the tree before. -/
theorem of_makes {made : FileTree} (hmakes : Makes old made) (hparent : ParentThere made path)
    (hwrites : WritesAt made path inside name) (content : ByteArray) :
    Written old (made.put (inside ++ [name]) (.file content)) path inside name content := by
  refine of_put hmakes.current ?_ (fun location _ => hmakes.slice location) hparent hwrites content
  -- what stood there before the directories were made stands there after it
  intro node hnode
  have hreplaces := hwrites.replaces
  rw [node?_eq_head? _ (by simp)] at hnode hreplaces
  rcases hmakes.slice (inside ++ [name]) with hsame | ⟨hnothing, -⟩
  · exact hreplaces node (hsame ▸ hnode)
  · simp [hnothing] at hnode

end Written

section
variable {path content : String} {world world' : World}

/-- A write that succeeds leaves exactly its file, encoded in UTF-8, and the folders on the way.
Both steps of the action are taken together here, so later results need not know that the folders
come first. -/
theorem writeText_spec (h : outcome (writeText path content) world = (.ok (), world')) :
    ∃ inside name, Written world.tree world'.tree path inside name content.toUTF8 := by
  rw [writeText, outcome_bind_ok_iff] at h
  obtain ⟨⟨⟩, between, hensure, hwrite⟩ := h
  obtain ⟨hmakes, -, hparent⟩ := ensureParent_spec hensure
  obtain ⟨tree, htree, rfl⟩ := outcome_change_ok_iff.1 hwrite
  obtain ⟨inside, name, hwrites, rfl⟩ := write_eq_ok_iff.1 htree
  exact ⟨inside, name, Written.of_makes hmakes hparent hwrites _⟩

/-- Writing neither reads nor changes the log, so it can be run with another log and comes to the
same tree. -/
theorem outcome_writeText_log {tree : FileTree} {log : List LogLine}
    (h : outcome (writeText path content) ⟨tree, log⟩ = (.ok (), world')) (log' : List LogLine) :
    outcome (writeText path content) ⟨tree, log'⟩ = (.ok (), ⟨world'.tree, log'⟩) := by
  rw [writeText, outcome_bind_ok_iff] at h ⊢
  obtain ⟨⟨⟩, between, hensure, hwrite⟩ := h
  obtain ⟨written, hwritten, rfl⟩ := outcome_change_ok_iff.1 hwrite
  refine ⟨(), ⟨between.tree, log'⟩, ?_, outcome_change_ok_iff.2 ⟨written, hwritten, rfl⟩⟩
  rw [ensureParent] at hensure ⊢
  cases hparent : Path.parent? path with
  | none =>
    simp only [hparent] at hensure ⊢
    cases hensure
    rfl
  | some parent =>
    simp only [hparent, outcome_ensureDirectory] at hensure ⊢
    split at hensure
    · split at hensure
      · cases hensure
        -- the parent is there already
        rename_i hpresent hdirectory
        rw [if_pos hpresent, if_pos hdirectory]
      · cases hensure
    · rename_i hpresent
      rw [if_neg hpresent]
      rcases hmade : tree.makeDirectories parent (parent.length + 1) with ⟨made, fault | ⟨⟩⟩
      · simp [hmade] at hensure
      · rw [hmade] at hensure
        cases hensure
        rfl

/-- Where a file was written, another can be written over it later. All that is asked of the later
tree is that it keeps folders and links and has a file in the place; the result then is known
exactly, the log included. -/
theorem writeText_again {old new later : FileTree} {inside : Location} {name : String}
    {written content' : ByteArray} (h : Written old new path inside name written)
    (hkeeps : Keeps new later) (hnode : later.node? (inside ++ [name]) = some (.file content'))
    (log : List LogLine) :
    outcome (writeText path content) ⟨later, log⟩ =
      (.ok (), ⟨later.put (inside ++ [name]) (.file content.toUTF8), log⟩) := by
  have hwrites : WritesAt later path inside name := h.writesAt.again hkeeps (by simp [hnode])
  rw [writeText, outcome_bind, ensureParent_again (h.parent.again hkeeps)]
  exact outcome_change_ok_iff.2 ⟨_, write_eq_ok_iff.2 ⟨inside, name, hwrites, rfl⟩, rfl⟩

end

/-! ### Copies -/

/-- A copy is a removal of what was there, the directories on the way, and the copy itself. -/
theorem outcome_replaceFile_ok_iff {source destination : String} {world world' : World} :
    outcome (replaceFile source destination) world = (.ok (), world') ↔
      ∃ removed : FileTree,
        (if world.tree.present destination then world.tree.remove destination = .ok removed
          else removed = world.tree) ∧
        ∃ between, outcome (ensureParent destination) ⟨removed, world.log⟩ = (.ok (), between) ∧
          ∃ tree, between.tree.copy source destination = .ok tree ∧
            world' = { between with tree } := by
  -- what follows is the same whether something was removed or not
  have hcopy (start : World) :
      outcome (do
        ensureParent destination
        change ("Failed to copy file from " ++ source ++ " to " ++ destination)
          (·.copy source destination)) start = (.ok (), world') ↔
      ∃ between, outcome (ensureParent destination) start = (.ok (), between) ∧
        ∃ tree, between.tree.copy source destination = .ok tree ∧
          world' = { between with tree } := by
    rw [outcome_bind_ok_iff]
    simp only [outcome_change_ok_iff]
    exact ⟨fun ⟨_, between, h⟩ => ⟨between, h⟩, fun ⟨between, h⟩ => ⟨(), between, h⟩⟩
  rw [replaceFile, outcome_bind, outcome_ask]
  cases hpresent : world.tree.present destination with
  | false =>
    simp only [Bool.false_eq_true, if_false, exists_eq_left]
    exact hcopy world
  | true =>
    simp only [if_true]
    rw [outcome_bind_ok_iff]
    constructor
    · rintro ⟨_, start, hremove, h⟩
      obtain ⟨removed, hremoved, rfl⟩ := outcome_change_ok_iff.1 hremove
      exact ⟨removed, hremoved, (hcopy _).1 h⟩
    · rintro ⟨removed, hremoved, h⟩
      exact ⟨(), _, outcome_change_ok_iff.2 ⟨removed, hremoved, rfl⟩, (hcopy _).2 h⟩

section
variable {source destination : String} {world world' : World}

/-- A copy makes no link. -/
theorem linksBefore_replaceFile
    (h : outcome (replaceFile source destination) world = (.ok (), world')) :
    LinksStay world'.tree world.tree := by
  obtain ⟨removed, hremove, between, hensure, tree, hcopy, rfl⟩ := outcome_replaceFile_ok_iff.1 h
  obtain ⟨hmakes, -, -⟩ := ensureParent_spec hensure
  obtain ⟨-, inside, name, content, hwrites, -, rfl⟩ := copy_eq_ok_iff.1 hcopy
  have hremoved : LinksStay removed world.tree := by
    split at hremove
    · obtain ⟨inside', name', rfl, -⟩ := remove_cases hremove
      exact linksBefore_erase _ (by simp)
    · rw [hremove]
      exact fun _ _ hlink => hlink
  exact (hwrites.grows content).linksBefore.trans (hmakes.grows.linksBefore.trans hremoved)

/-- If no link was removed, a copy ends where the file that was removed stood. A destination that
was a link is removed as a link, so the copy then leads to another place; the premise excludes
that. With it, a copy is one write of its destination, and the source reads at the end what was
written. -/
theorem replaceFile_spec (hlinks : LinksStay world.tree world'.tree)
    (h : outcome (replaceFile source destination) world = (.ok (), world')) :
    ∃ inside name content, Written world.tree world'.tree destination inside name content ∧
      world'.tree.read source = .ok content := by
  obtain ⟨removed, hremove, between, hensure, tree, hcopy, rfl⟩ := outcome_replaceFile_ok_iff.1 h
  obtain ⟨hmakes, -, hparent⟩ := ensureParent_spec hensure
  obtain ⟨-, inside, name, content, hwrites, hread, rfl⟩ := copy_eq_ok_iff.1 hcopy
  refine ⟨inside, name, content, ?_, ?_⟩
  · by_cases hpresent : world.tree.present destination = true
    · rw [if_pos hpresent] at hremove
      obtain ⟨inside', name', rfl, hwas⟩ := remove_cases hremove
      -- what was removed is no link now
      have hlink : ∀ target, between.tree.node? (inside' ++ [name']) ≠ some (.link target) := by
        intro target hlink
        have hbefore := hmakes.grows.linksBefore _ _ hlink
        rw [node?_erase_self _ (by simp)] at hbefore
        cases hbefore
      rcases hwas with ⟨target, hwas⟩ | ⟨old, hnode, hwrites'⟩
      · have hgone := (hwrites.grows content).linksBefore _ _ (hlinks _ _ hwas)
        exact absurd hgone (hlink target)
      -- the destination is opened where it was removed
      have hkeeps : Keeps world.tree between.tree := (keeps_erase hnode).trans hmakes.grows.keeps
      have hplace := (hwrites'.place _ hkeeps hlink).symm.trans hwrites.place_self
      obtain ⟨rfl, rfl⟩ := placeAt_inj (Except.ok.inj hplace)
      have hcurrent : between.tree.current = world.tree.current := hmakes.current
      refine Written.of_put hcurrent hwrites'.replaces ?_ hparent hwrites content
      intro location hne
      have hslice := hmakes.slice location
      rwa [slice_erase, if_neg hne] at hslice
    · rw [if_neg hpresent] at hremove
      subst hremove
      exact Written.of_makes hmakes hparent hwrites content
  · exact hwrites.read_source hread

/-- Where a file was copied to, another can be copied over it later, unless it is the source. The
destination is removed first, so a source in the same place would be gone when it is read. That the
tree has no links keeps the way to the source off the place. -/
theorem replaceFile_again {old new later : FileTree} {inside location : Location} {name : String}
    {copied content content' : ByteArray}
    (h : Written old new destination inside name copied) (hkeeps : Keeps new later)
    (hlinkless : Linkless later) (hnode : later.node? (inside ++ [name]) = some (.file content'))
    (hsource : later.resolve source = .ok (location, .file content))
    (hne : location ≠ inside ++ [name]) (log : List LogLine) :
    outcome (replaceFile source destination) ⟨later, log⟩ =
      (.ok (), ⟨later.put (inside ++ [name]) (.file content), log⟩) := by
  have hwrites : WritesAt later destination inside name :=
    h.writesAt.again hkeeps (by simp [hnode])
  have hpresent : later.present destination = true :=
    present_eq_true_iff.2 ⟨_, _, hwrites.resolve (Keeps.refl later) hnode⟩
  -- the destination is removed, and the source is not
  let removed := later.erase (inside ++ [name])
  have herase : Keeps later removed := keeps_erase hnode
  have hsourceNode : removed.node? location = some (.file content) := by
    rw [node?_erase_of_ne _ hne]
    exact (node?_of_resolve hsource).2
  have hremoved : removed.resolve source = .ok (location, .file content) :=
    resolve_file_again herase hsource hsourceNode
  have hwritesRemoved : WritesAt removed destination inside name :=
    hwrites.again herase (by simp [removed, node?_erase_self])
  have hread : (removed.put (inside ++ [name]) (.file .empty)).read source = .ok content := by
    apply read_eq_ok_iff.2 ⟨location, ?_⟩
    apply resolve_file_again (hwritesRemoved.grows .empty).keeps hremoved
    rwa [node?_put_of_ne _ hne]
  refine outcome_replaceFile_ok_iff.2 ⟨removed, ?_, ⟨removed, log⟩, ?_, _, ?_, rfl⟩
  · rw [if_pos hpresent]
    exact hwrites.remove hlinkless hnode
  · exact ensureParent_again (h.parent.again (hkeeps.trans herase))
  · exact copy_eq_ok_iff.2 ⟨isFile_eq_true_iff.2 ⟨_, _, hremoved⟩, inside, name, content,
      hwritesRemoved, hread, (put_erase _ _ _).symm⟩

end

end DesignTokens.Action

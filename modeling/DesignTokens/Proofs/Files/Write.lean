import DesignTokens.Proofs.Files.Resolve

/-!
# Changes of trees

What each change of a tree does when it succeeds. Writing puts a file under a name that the path
leads to (`WritesAt`, `write_eq_ok_iff`), and a tree that keeps directories and links is written at
the same name (`WritesAt.again`). Making directories makes nothing else, and the path leads to a
directory then (`makeDirectories_spec`). A removal takes away a link or the file that writing would
replace (`remove_cases`). Nothing here makes a link.
-/

set_option autoImplicit false

namespace DesignTokens.FileTree

/-! ### Writing -/

/-- Writing to a path puts a file under a name in a directory, here and in every tree that keeps
directories and links, unless there is a link of that name. -/
structure WritesAt (tree : FileTree) (path : String) (inside : Location) (name : String) :
    Prop where
  steps : ∃ step, tree.lastStep .isDirectory path = .ok step
  noSlash : endsInSlash path = false
  replaces : ∀ node ∈ tree.node? (inside ++ [name]), ∃ content, node = .file content
  place : ∀ new, Keeps tree new →
    (∀ target, new.node? (inside ++ [name]) ≠ some (.link target)) →
    new.place true path = .ok (new.placeAt inside name)

section
variable {tree new : FileTree} {path : String} {inside : Location} {name : String}

/-- A path is still written at its place if the tree has kept its folders and links, and the place
holds a file or nothing. -/
theorem WritesAt.again (h : WritesAt tree path inside name) (hkeeps : Keeps tree new)
    (hnode : ∀ node ∈ new.node? (inside ++ [name]), ∃ content, node = .file content) :
    WritesAt new path inside name := by
  obtain ⟨⟨inside', name'⟩, hstep⟩ := h.steps
  refine ⟨⟨_, lastStep_again hkeeps hstep⟩, h.noSlash, hnode, ?_⟩
  intro other hother hlink
  exact h.place other (hkeeps.trans hother) hlink

/-- The place itself. -/
theorem WritesAt.place_self (h : WritesAt tree path inside name) :
    tree.place true path = .ok (tree.placeAt inside name) := by
  apply h.place tree (Keeps.refl tree)
  intro target hlink
  obtain ⟨content, heq⟩ := h.replaces _ hlink
  cases heq

/-- A path is written at one place only. -/
theorem WritesAt.unique {inside' : Location} {name' : String}
    (h : WritesAt tree path inside name) (h' : WritesAt tree path inside' name') :
    inside = inside' ∧ name = name' := by
  exact placeAt_inj (Except.ok.inj (h.place_self.symm.trans h'.place_self))

/-- A path that leads to the file under a name, or to the free name. -/
theorem writesAt_of_place (hsteps : ∃ step, tree.lastStep .isDirectory path = .ok step)
    (hslash : endsInSlash path = false)
    (hnode : ∀ node ∈ tree.node? (inside ++ [name]), ∃ content, node = .file content)
    (hplace : tree.place true path = .ok (tree.placeAt inside name)) :
    WritesAt tree path inside name := by
  refine ⟨hsteps, hslash, hnode, ?_⟩
  intro new hkeeps hlink
  cases hold : tree.node? (inside ++ [name]) with
  | none =>
    rw [placeAt_eq_free_iff.2 ⟨rfl, rfl, hold⟩] at hplace
    exact place_free_again hkeeps hplace hlink
  | some node =>
    obtain ⟨content, rfl⟩ := hnode node hold
    rw [placeAt_eq_found_iff.2 ⟨rfl, hold⟩] at hplace
    exact place_file_again hkeeps hplace hlink

/-- A path that is written to leads to the file that stands there. -/
theorem WritesAt.resolve {content : ByteArray} (h : WritesAt tree path inside name)
    (hkeeps : Keeps tree new) (hnode : new.node? (inside ++ [name]) = some (.file content)) :
    new.resolve path = .ok (inside ++ [name], .file content) := by
  rw [resolve_eq_ok_iff, h.place new hkeeps (by simp [hnode])]
  rw [placeAt_eq_found_iff.2 ⟨rfl, hnode⟩]

/-- Writing puts the file under the name. It succeeds exactly for the paths that can be written
(`WritesAt`), and the bytes have no part in that. -/
theorem write_eq_ok_iff {content : ByteArray} :
    tree.write path content = .ok new ↔
      ∃ inside name, WritesAt tree path inside name ∧
        new = tree.put (inside ++ [name]) (.file content) := by
  constructor
  · intro h
    rw [write, Result.bind_eq_ok_iff] at h
    obtain ⟨step, hstep, h⟩ := h
    -- a path that ends in a slash is never written
    by_cases hslash : endsInSlash path = true
    · simp only [hslash, if_true] at h
      cases h
    have hslash : endsInSlash path = false := by simpa using hslash
    simp only [hslash] at h
    obtain ⟨place, hplace, h⟩ := Result.bind_eq_ok_iff.1 h
    cases place with
    | free inside name =>
      cases h
      obtain ⟨-, hleads⟩ := place_eq_ok_iff.1 hplace
      obtain ⟨hnode, -⟩ := hleads.free_cases (Keeps.refl tree)
      rw [← placeAt_eq_free_iff.2 ⟨rfl, rfl, hnode⟩] at hplace
      exact ⟨inside, name,
        writesAt_of_place ⟨step, hstep⟩ hslash (by simp [hnode]) hplace, rfl⟩
    | found location node =>
      cases node with
      | directory => cases h
      -- the walk follows a link at the end, so it does not find one there
      | link target => exact absurd (resolve_eq_ok_iff.2 hplace) resolve_ne_link
      | file old =>
        cases h
        obtain ⟨-, hleads⟩ := place_eq_ok_iff.1 hplace
        obtain ⟨inside, name, rfl, hnode, -⟩ := hleads.file_cases (Keeps.refl tree)
        rw [← placeAt_eq_found_iff.2 ⟨rfl, hnode⟩] at hplace
        exact ⟨inside, name,
          writesAt_of_place ⟨step, hstep⟩ hslash (by simp [hnode]) hplace, rfl⟩
  · rintro ⟨inside, name, h, rfl⟩
    obtain ⟨step, hstep⟩ := h.steps
    rw [write, Result.bind_eq_ok_iff]
    refine ⟨step, hstep, ?_⟩
    simp only [h.noSlash, Bool.false_eq_true, if_false]
    refine Result.bind_eq_ok_iff.2 ⟨_, h.place_self, ?_⟩
    cases hnode : tree.node? (inside ++ [name]) with
    | none =>
      rw [placeAt_eq_free_iff.2 ⟨rfl, rfl, hnode⟩]
      rfl
    | some node =>
      obtain ⟨old, rfl⟩ := h.replaces node hnode
      rw [placeAt_eq_found_iff.2 ⟨rfl, hnode⟩]
      rfl

/-- Putting a file where a path is written loses nothing. -/
theorem WritesAt.grows (h : WritesAt tree path inside name) (content : ByteArray) :
    Grows tree (tree.put (inside ++ [name]) (.file content)) :=
  Grows.put_file content (by simp) h.replaces

/-- A path that was written to leads to what was written. -/
theorem WritesAt.resolve_put (h : WritesAt tree path inside name) (content : ByteArray) :
    (tree.put (inside ++ [name]) (.file content)).resolve path =
      .ok (inside ++ [name], .file content) :=
  h.resolve (h.grows content).keeps (node?_put_self _ (by simp) _)

/-- What was read when a file was emptied can be read when it was written there. -/
theorem WritesAt.read_source (h : WritesAt tree path inside name) {source : String}
    {content : ByteArray}
    (hread : (tree.put (inside ++ [name]) (.file .empty)).read source = .ok content) :
    (tree.put (inside ++ [name]) (.file content)).read source = .ok content := by
  obtain ⟨location, hresolve⟩ := read_eq_ok_iff.1 hread
  obtain ⟨-, hnode⟩ := node?_of_resolve hresolve
  apply read_eq_ok_iff.2
  by_cases heq : location = inside ++ [name]
  · -- a file that is copied onto itself is empty then
    subst heq
    rw [node?_put_self _ (by simp)] at hnode
    cases hnode
    exact ⟨_, hresolve⟩
  · have hkeeps : Keeps (tree.put (inside ++ [name]) (.file .empty))
        (tree.put (inside ++ [name]) (.file content)) := by
      have hgrows := (h.again (h.grows .empty).keeps (by simp)).grows content
      rw [put_put] at hgrows
      exact hgrows.keeps
    refine ⟨location, resolve_file_again hkeeps hresolve ?_⟩
    rwa [node?_put_of_ne _ heq] at hnode ⊢

end

/-- Copying reads the source after the destination was emptied. So a file that is copied onto itself
comes out empty, and the copy still succeeds. -/
theorem copy_eq_ok_iff {tree new : FileTree} {source destination : String} :
    tree.copy source destination = .ok new ↔
      tree.isFile source = true ∧ ∃ inside name content,
        WritesAt tree destination inside name ∧
        (tree.put (inside ++ [name]) (.file .empty)).read source = .ok content ∧
        new = tree.put (inside ++ [name]) (.file content) := by
  rw [copy, Result.bind_eq_ok_iff, isFile_eq_true_iff]
  constructor
  · rintro ⟨⟨location, node⟩, hresolve, h⟩
    cases node with
    | directory => cases h
    | link target => cases h
    | file old =>
      obtain ⟨emptied, hemptied, h⟩ := Result.bind_eq_ok_iff.1 h
      obtain ⟨content, hread, h⟩ := Result.bind_eq_ok_iff.1 h
      obtain ⟨inside, name, hwrites, rfl⟩ := write_eq_ok_iff.1 hemptied
      obtain ⟨inside', name', hwrites', rfl⟩ := write_eq_ok_iff.1 h
      -- the file is written where it was emptied
      obtain ⟨rfl, rfl⟩ := hwrites'.unique
        (hwrites.again (hwrites.grows .empty).keeps (by simp))
      exact ⟨⟨location, old, hresolve⟩, inside', name', content, hwrites, hread, put_put _ _ _ _⟩
  · rintro ⟨⟨location, old, hresolve⟩, inside, name, content, hwrites, hread, rfl⟩
    refine ⟨_, hresolve, ?_⟩
    refine Result.bind_eq_ok_iff.2 ⟨_, write_eq_ok_iff.2 ⟨inside, name, hwrites, rfl⟩, ?_⟩
    refine Result.bind_eq_ok_iff.2 ⟨content, hread, ?_⟩
    have hagain := hwrites.again (hwrites.grows .empty).keeps (by simp)
    exact write_eq_ok_iff.2 ⟨inside, name, hagain, (put_put _ _ _ _).symm⟩

/-! ### Directories -/

section
variable {tree new : FileTree} {path : String}

/-- A directory is made under a free name, the last one of the path, in a directory that the
names in front of it lead to. -/
theorem makeDirectory_eq_ok (h : tree.makeDirectory path = .ok new) :
    ∃ inside name before, checkPath path = .ok () ∧ components path = before ++ [name] ∧
      Leads tree true maxLinks (start tree.current path) (before ++ ["."])
        (.found inside .directory) ∧
      Ordinary name ∧ tree.node? (inside ++ [name]) = none ∧
      new = tree.put (inside ++ [name]) .directory := by
  rw [makeDirectory, Result.bind_eq_ok_iff] at h
  obtain ⟨⟨inside, name⟩, hstep, h⟩ := h
  obtain ⟨place, hplace, h⟩ := Result.bind_eq_ok_iff.1 h
  cases place with
  | found => cases h
  | free directory other =>
    cases h
    obtain ⟨hpath, before, hnames, hleads, hdot, hup⟩ := lastStep_eq_ok_iff.1 hstep
    obtain ⟨hname, hfree⟩ := (leads_name_iff hdot hup (by simp)).1 (walk_eq_ok_iff.1 hplace)
    obtain ⟨rfl, rfl, hnode⟩ := placeAt_eq_free_iff.1 hfree.symm
    exact ⟨inside, name, before, hpath, hnames, hleads, hname, hnode, rfl⟩

/-- The path leads to the directory that was made. Nothing else is different in the tree, so it has
only made folders. -/
theorem makeDirectory_spec (h : tree.makeDirectory path = .ok new) :
    Makes tree new ∧ new.isDirectory path = true := by
  obtain ⟨inside, name, before, hpath, hnames, hleads, hname, hnode, rfl⟩ :=
    makeDirectory_eq_ok h
  have hmakes := Makes.put_directory hnode
  refine ⟨hmakes, isDirectory_eq_true_iff.2 ⟨inside ++ [name], ?_⟩⟩
  apply resolve_eq_ok_iff.2 (place_eq_ok_iff.2 ⟨hpath, ?_⟩)
  obtain ⟨_, left, heq, hsplit⟩ := (hleads.directory_again hmakes.grows.keeps).split
  cases heq
  have hmade : (tree.put (inside ++ [name]) .directory).node? (inside ++ [name]) =
      some .directory := node?_put_self tree (by simp) _
  rw [current_put, steps, hnames, List.append_assoc]
  refine (hsplit true _ _ (by simp)).2 (.down hname hmade ?_)
  -- a slash at the end stands for a dot in the new directory
  split
  · exact .dot .here
  · exact .here

/-- Nothing but directories is made in any case. If all directories could be made the path leads to
a directory, unless it is empty. -/
theorem makeDirectories_spec (tree : FileTree) (path : String) (depth : Nat) :
    Makes tree (tree.makeDirectories path depth).1 ∧
      ((tree.makeDirectories path depth).2 = .ok () →
        path = "" ∨ (tree.makeDirectories path depth).1.isDirectory path = true) := by
  induction depth generalizing path with
  | zero => exact ⟨Makes.refl tree, fun h => by cases h⟩
  | succ depth ih =>
    rw [makeDirectories]
    by_cases hempty : path.isEmpty = true
    · rw [if_pos hempty]
      exact ⟨Makes.refl tree, fun _ => Or.inl (by simpa using hempty)⟩
    rw [if_neg hempty]
    cases hmade : tree.makeDirectory path with
    | ok made =>
      obtain ⟨hmakes, hdirectory⟩ := makeDirectory_spec hmade
      exact ⟨hmakes, fun _ => Or.inr hdirectory⟩
    | error fault =>
      -- only for what is missing on the way the parent is made first
      by_cases hmissing : fault.kind = .notFound
      · simp only [hmissing, if_true]
        cases Path.parent? path with
        | none => exact ⟨Makes.refl tree, fun h => by cases h⟩
        | some parent =>
          obtain ⟨hparents, -⟩ := ih parent
          rcases hresult : tree.makeDirectories parent depth with ⟨between, fault' | ⟨⟩⟩
          · rw [hresult] at hparents
            simp only [hresult]
            exact ⟨hparents, fun h => by cases h⟩
          · rw [hresult] at hparents
            simp only [hresult]
            -- behind the parent, the directory is tried once more
            cases hagain : between.makeDirectory path with
            | ok made =>
              obtain ⟨hmakes, hdirectory⟩ := makeDirectory_spec hagain
              dsimp only
              exact ⟨hparents.trans hmakes, fun _ => Or.inr hdirectory⟩
            | error fault'' =>
              dsimp only
              split
              · -- a directory that is there already is no failure
                rename_i hdirectory
                exact ⟨hparents, fun _ => Or.inr hdirectory⟩
              · exact ⟨hparents, fun h => by cases h⟩
      · simp only [hmissing, if_false]
        split
        · rename_i hdirectory
          exact ⟨Makes.refl tree, fun _ => Or.inr hdirectory⟩
        · exact ⟨Makes.refl tree, fun h => by cases h⟩

end

/-! ### Links and removals -/

/-- Each link of the first tree is one of the second tree as well. -/
def LinksStay (old new : FileTree) : Prop :=
  ∀ location target, old.node? location = some (.link target) →
    new.node? location = some (.link target)

/-- Links that stay through two changes stay through both together. -/
theorem LinksStay.trans {first second third : FileTree} (h : LinksStay first second)
    (h' : LinksStay second third) : LinksStay first third :=
  fun location target hlink => h' location target (h location target hlink)

/-- A tree that only grows keeps its links. -/
theorem Grows.linksStay {old new : FileTree} (h : Grows old new) : LinksStay old new :=
  fun _ _ hlink => h.link hlink

/-- No link is made. -/
theorem Grows.linksBefore {old new : FileTree} (h : Grows old new) : LinksStay new old := by
  intro location target hlink
  have hroot : location ≠ [] := by
    rintro rfl
    cases hlink
  rw [node?_eq_head? _ hroot] at hlink ⊢
  rcases h.slice location with hsame | ⟨-, hmade⟩ | ⟨-, content, hwritten⟩
  · rwa [hsame] at hlink
  · simp [hmade] at hlink
  · simp [hwritten] at hlink

/-- What is left after an erasure was there before, so its links are links of the whole tree. -/
theorem linksBefore_erase (tree : FileTree) {location : Location} (hroot : location ≠ []) :
    LinksStay (tree.erase location) tree := by
  intro other target hlink
  by_cases heq : other = location
  · rw [heq, node?_erase_self _ hroot] at hlink
    cases hlink
  · rwa [node?_erase_of_ne _ heq] at hlink

/-- Nothing in the tree is a link. -/
def Linkless (tree : FileTree) : Prop :=
  ∀ location target, tree.node? location ≠ some (.link target)

/-- Where there are no links, all of them stay. -/
theorem Linkless.linksStay {old : FileTree} (h : Linkless old) (new : FileTree) :
    LinksStay old new :=
  fun location target hlink => absurd hlink (h location target)

/-- Growing brings in no link. -/
theorem Grows.linkless {old new : FileTree} (h : Grows old new) (hold : Linkless old) :
    Linkless new :=
  fun location target hlink => hold location target (h.linksBefore location target hlink)

/-- A last step to something other than a link leads where the whole path does. -/
theorem walk_lastStep_iff {tree : FileTree} {path : String} {inside : Location} {name : String}
    (hstep : tree.lastStep .isDirectory path = .ok (inside, name))
    (hslash : endsInSlash path = false)
    (hlink : ∀ target, tree.node? (inside ++ [name]) ≠ some (.link target)) (place : Place) :
    walk tree false maxLinks inside [name] = .ok place ↔ tree.place true path = .ok place := by
  obtain ⟨hpath, before, hnames, hleads, hdot, hup⟩ := lastStep_eq_ok_iff.1 hstep
  obtain ⟨_, left, heq, hsplit⟩ := hleads.split
  cases heq
  rw [walk_eq_ok_iff, place_eq_ok_iff, steps, hnames, hslash, if_neg (by simp),
    List.append_nil, hsplit true _ _ (by simp), leads_name_iff hdot hup (by simp),
    leads_name_iff hdot hup (fun _ => hlink)]
  simp [hpath]

/-- What is removed is a link, or the file that writing would replace. So a copy, which removes
before it writes, touches one place only unless there was a link. -/
theorem remove_cases {tree new : FileTree} {path : String} (h : tree.remove path = .ok new) :
    ∃ inside name, new = tree.erase (inside ++ [name]) ∧
      ((∃ target, tree.node? (inside ++ [name]) = some (.link target)) ∨
        ∃ content, tree.node? (inside ++ [name]) = some (.file content) ∧
          WritesAt tree path inside name) := by
  rw [remove, Result.bind_eq_ok_iff] at h
  obtain ⟨⟨inside, name⟩, hstep, h⟩ := h
  obtain ⟨place, hwalk, h⟩ := Result.bind_eq_ok_iff.1 h
  obtain ⟨-, -, -, -, hdot, hup⟩ := lastStep_eq_ok_iff.1 hstep
  have hplace : place = tree.placeAt inside name :=
    ((leads_name_iff hdot hup (by simp)).1 (walk_eq_ok_iff.1 hwalk)).2
  cases place with
  | free => cases h
  | found location node =>
    obtain ⟨rfl, hnode⟩ := placeAt_eq_found_iff.1 hplace.symm
    have hslash : endsInSlash path = false := by
      by_contra hslash
      simp only [Bool.not_eq_false] at hslash
      cases node <;> simp [hslash] at h
    simp only [hslash] at h
    cases node with
    | directory => cases h
    | link target =>
      cases h
      exact ⟨inside, name, rfl, Or.inl ⟨target, hnode⟩⟩
    | file content =>
      cases h
      rw [walk_lastStep_iff hstep hslash (by simp [hnode]), hplace] at hwalk
      exact ⟨inside, name, rfl, Or.inr ⟨content, hnode,
        writesAt_of_place ⟨_, hstep⟩ hslash (by simp [hnode]) hwalk⟩⟩

/-- Without links, a file that writing would replace can be removed. -/
theorem WritesAt.remove {tree : FileTree} {path : String} {inside : Location} {name : String}
    {content : ByteArray} (hlinkless : Linkless tree) (h : WritesAt tree path inside name)
    (hnode : tree.node? (inside ++ [name]) = some (.file content)) :
    tree.remove path = .ok (tree.erase (inside ++ [name])) := by
  obtain ⟨⟨inside', name'⟩, hstep⟩ := h.steps
  have hplace := (walk_lastStep_iff hstep h.noSlash (hlinkless _) _).2 h.place_self
  rw [placeAt_eq_found_iff.2 ⟨rfl, hnode⟩] at hplace
  rw [FileTree.remove, Result.bind_eq_ok_iff]
  refine ⟨_, hstep, Result.bind_eq_ok_iff.2 ⟨_, hplace, ?_⟩⟩
  simp only [h.noSlash]
  rfl

end DesignTokens.FileTree

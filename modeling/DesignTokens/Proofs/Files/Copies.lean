import DesignTokens.Proofs.Files.Fills
import DesignTokens.Proofs.Files.Frame

/-!
# Copies and their sources

A copy removes what stands at its destination before it looks at its source, and it empties the
file that the destination leads to before it reads. So it can harm its source in two ways. The
removal may take away the file that the source leads to, or a link that is followed on the way
(`Needs`); afterwards, the destination may lead to the file of the source all the same, since
directories were made for it.

These are the only ways, however the copy ends (`source_of_replaceFile`). The argument follows the
three steps of a copy: a walk takes the same way in a tree without something that it does not need
(`resolve_erase`), directories that are made change nothing for it, and the copy itself writes one
file (`source_of_copy`).
-/

set_option autoImplicit false

namespace DesignTokens

namespace FileTree

/-! ### Links on a way -/

/-- Following names from a directory goes over the link at a location. -/
inductive CrossesFrom (tree : FileTree) : Location → List String → Location → Prop
  | dot {directory location : Location} {rest : List String}
    (h : CrossesFrom tree directory rest location) :
    CrossesFrom tree directory ("." :: rest) location
  | up {directory location : Location} {rest : List String}
    (h : CrossesFrom tree directory.dropLast rest location) :
    CrossesFrom tree directory (".." :: rest) location
  | down {directory location : Location} {name : String} {rest : List String}
    (hname : Ordinary name) (hnode : tree.node? (directory ++ [name]) = some .directory)
    (h : CrossesFrom tree (directory ++ [name]) rest location) :
    CrossesFrom tree directory (name :: rest) location
  | here {directory : Location} {name target : String} {rest : List String}
    (hname : Ordinary name) (hnode : tree.node? (directory ++ [name]) = some (.link target)) :
    CrossesFrom tree directory (name :: rest) (directory ++ [name])
  | follow {directory location : Location} {name target : String} {rest : List String}
    (hname : Ordinary name) (hnode : tree.node? (directory ++ [name]) = some (.link target))
    (h : CrossesFrom tree (start directory target) (steps target ++ rest) location) :
    CrossesFrom tree directory (name :: rest) location

/-- A walk takes the same way to the same place in a tree without something else. -/
theorem Leads.erase {tree : FileTree} {links : Nat} {directory location : Location}
    {names : List String} {place : Place}
    (h : Leads tree true links directory names place)
    (hnode : tree.node? location ≠ some .directory)
    (hcrosses : ¬ CrossesFrom tree directory names location) (hplace : place.location ≠ location) :
    Leads (tree.erase location) true links directory names place := by
  induction h with
  | here => exact .here
  | dot _ ih => exact .dot (ih (fun hrest => hcrosses (.dot hrest)) hplace)
  | up _ ih => exact .up (ih (fun hrest => hcrosses (.up hrest)) hplace)
  | @down links directory name rest place hname hdirectory _ ih =>
    have hne : directory ++ [name] ≠ location := by
      rintro rfl
      exact hnode hdirectory
    refine .down hname ?_ (ih (fun hrest => hcrosses (.down hname hdirectory hrest)) hplace)
    rwa [node?_erase_of_ne _ hne]
  | @final links directory name hname hfile =>
    -- the walk ends under a name that is not the one that goes
    rw [location_placeAt] at hplace
    have hsame := node?_erase_of_ne tree hplace
    have hplaceAt : (tree.erase location).placeAt directory name = tree.placeAt directory name := by
      rw [placeAt, placeAt, hsame]
    rw [← hplaceAt]
    exact .final hname (by rwa [hsame])
  | stay _ hlast _ => cases hlast
  | @follow links directory name target rest place hname hrest hlink _ ih =>
    have hne : directory ++ [name] ≠ location := by
      rintro rfl
      exact hcrosses (.here hname hlink)
    refine .follow hname hrest ?_ (ih (fun hlater => hcrosses (.follow hname hlink hlater)) hplace)
    rwa [node?_erase_of_ne _ hne]

/-- Where there are no links, none is crossed. -/
theorem not_crossesFrom {tree : FileTree} (hlinkless : tree.Linkless) {directory : Location}
    {names : List String} {location : Location} :
    ¬ CrossesFrom tree directory names location := by
  intro h
  induction h with
  | dot _ ih => exact ih
  | up _ ih => exact ih
  | down _ _ _ ih => exact ih
  | here _ hnode => exact hlinkless _ _ hnode
  | follow _ hnode _ _ => exact hlinkless _ _ hnode

/-- The path leads to the file at the location, or over the link there. -/
def Needs (tree : FileTree) (path : String) (location : Location) : Prop :=
  tree.fileAt? path = some location ∨
    CrossesFrom tree (start tree.current path) (steps path) location

/-- The path leads to something, and what stands at the location is removed for it. -/
def Removes (tree : FileTree) (path : String) (location : Location) : Prop :=
  tree.present path = true ∧ tree.remove path = .ok (tree.erase location)

section
variable {tree : FileTree} {path : String} {location : Location}

/-- What is removed is a link, or the file that writing would replace. This restates `remove_cases`
for the relation, in which the location is known already. -/
theorem Removes.cases (h : Removes tree path location) :
    ∃ inside name, location = inside ++ [name] ∧
      ((∃ target, tree.node? location = some (.link target)) ∨
        ∃ content, tree.node? location = some (.file content) ∧
          WritesAt tree path inside name) := by
  obtain ⟨inside, name, hremoved, hnode⟩ := remove_cases h.2
  -- only one location can be missing
  have hlocation : location = inside ++ [name] := by
    by_contra hne
    have hgone : (tree.erase (inside ++ [name])).node? (inside ++ [name]) = none :=
      node?_erase_self tree (by simp)
    rw [← hremoved, node?_erase_of_ne tree (Ne.symm hne)] at hgone
    rcases hnode with ⟨target, hlink⟩ | ⟨content, hfile, -⟩
    · cases hgone.symm.trans hlink
    · cases hgone.symm.trans hfile
  subst hlocation
  exact ⟨inside, name, rfl, hnode⟩

/-- A folder is never what is removed. -/
theorem Removes.not_directory (h : Removes tree path location) :
    tree.node? location ≠ some .directory := by
  obtain ⟨inside, name, -, ⟨target, hlink⟩ | ⟨content, hfile, -⟩⟩ := h.cases
  · simp [hlink]
  · simp [hfile]

/-- A path leads to its file in a tree without something that it does not need. What it needs are
the file itself and the links on its way; folders cannot be erased, so they are left out here. -/
theorem resolve_erase {file : Location} {content : ByteArray}
    (h : tree.resolve path = .ok (file, .file content))
    (hnode : tree.node? location ≠ some .directory) (hneeds : ¬ tree.Needs path location) :
    (tree.erase location).resolve path = .ok (file, .file content) := by
  obtain ⟨hpath, hleads⟩ := place_eq_ok_iff.1 (resolve_eq_ok_iff.1 h)
  have hplace : (Place.found file (.file content)).location ≠ location := by
    rintro rfl
    exact hneeds (.inl (fileAt?_eq_some_iff.2 ⟨content, h⟩))
  apply resolve_eq_ok_iff.2 (place_eq_ok_iff.2 ⟨hpath, ?_⟩)
  exact hleads.erase hnode (fun hcrosses => hneeds (.inr hcrosses)) hplace

/-- The file that a path led to cannot be read where it was removed, whatever directories are
made. -/
theorem not_resolve_of_erase {made : FileTree} (h : tree.fileAt? path = some location)
    (hmakes : Makes (tree.erase location) made) (found : Location) (content : ByteArray) :
    made.resolve path ≠ .ok (found, .file content) := by
  obtain ⟨old, hresolve⟩ := fileAt?_eq_some_iff.1 h
  obtain ⟨hroot, hnode⟩ := node?_of_resolve hresolve
  obtain ⟨-, hleads⟩ := place_eq_ok_iff.1 (resolve_eq_ok_iff.1 hresolve)
  obtain ⟨inside, name, rfl, -, -⟩ := hleads.file_cases (Keeps.refl tree)
  -- nothing but a directory can stand there now
  have hmade : ∀ node ∈ made.node? (inside ++ [name]), node = .directory := by
    rw [node?_eq_head? _ hroot]
    have hslice := hmakes.slice (inside ++ [name])
    rw [slice_erase, if_pos rfl] at hslice
    rcases hslice with hnothing | ⟨-, hdirectory⟩
    · simp [hnothing]
    · simp [hdirectory]
  have hplace : made.place true path = .ok (made.placeAt inside name) := by
    apply place_file_again ((keeps_erase hnode).trans hmakes.grows.keeps)
      (resolve_eq_ok_iff.1 hresolve)
    intro target hlink
    cases hmade _ hlink
  intro hfound
  rw [resolve_eq_ok_iff, hplace, Except.ok.injEq, placeAt_eq_found_iff] at hfound
  obtain ⟨rfl, hfile⟩ := hfound
  cases hmade _ hfile

/-- A file is still there after folders were made. -/
theorem Makes.node?_file {old new : FileTree} (h : Makes old new) {content : ByteArray}
    (hnode : old.node? location = some (.file content)) :
    new.node? location = some (.file content) := by
  have hfills : Fills (fun _ => False) old new := h.fills
  exact hfills.file hnode fun _ hpath => hpath.elim

/-! ### Copies of files -/

variable {source destination : String} {new : FileTree}

/-- Behind a copy both paths read the same. -/
theorem read_of_copy (h : tree.copy source destination = .ok new) :
    ∃ content, new.read source = .ok content ∧ new.read destination = .ok content := by
  obtain ⟨-, inside, name, content, hwrites, hread, rfl⟩ := copy_eq_ok_iff.1 h
  exact ⟨content, hwrites.read_source hread,
    read_eq_ok_iff.2 ⟨_, hwrites.resolve_put content⟩⟩

/-- The source of a copy reads as it did, unless the destination leads to the same file. In that
case the file was opened for writing, and so emptied, before anything was read from it. -/
theorem source_of_copy (h : tree.copy source destination = .ok new) {file : Location}
    {content : ByteArray} (hsource : tree.resolve source = .ok (file, .file content)) :
    new.read source = .ok content ∨
      new.fileAt? destination = new.fileAt? source ∧ new.read source = .ok .empty := by
  obtain ⟨-, inside, name, copied, hwrites, hread, rfl⟩ := copy_eq_ok_iff.1 h
  obtain ⟨-, hnode⟩ := node?_of_resolve hsource
  by_cases hsame : file = inside ++ [name]
  · subst hsame
    -- the file was emptied before it was read
    have hemptied := resolve_file_again (hwrites.grows .empty).keeps hsource
      (node?_put_self _ (by simp) _)
    obtain rfl : copied = .empty :=
      Except.ok.inj (hread.symm.trans (read_eq_ok_iff.2 ⟨_, hemptied⟩))
    refine .inr ⟨?_, read_eq_ok_iff.2 ⟨_, hemptied⟩⟩
    rw [fileAt?_eq_some_iff.2 ⟨_, hwrites.resolve_put .empty⟩, fileAt?_eq_some_iff.2 ⟨_, hemptied⟩]
  · refine .inl (read_eq_ok_iff.2
      ⟨file, resolve_file_again (hwrites.grows copied).keeps hsource ?_⟩)
    rwa [node?_put_of_ne _ hsame]

end

end FileTree

namespace Action

open FileTree

/-! ### Copies in steps -/

section
variable {source destination : String} {world world' : World} {result : Except Failure Unit}

/-- The tree in which a copy goes on, once nothing stands at its destination. -/
def Cleared (tree : FileTree) (destination : String) (cleared : FileTree) : Prop :=
  (tree.present destination = false ∧ cleared = tree) ∨
    ∃ location, Removes tree destination location ∧ cleared = tree.erase location

/-- Behind the removal, directories are made, and then the file is copied or not. All three ways
to end are covered, since the source may have been lost in any of them. -/
theorem copy_cases (h : outcome (do
      ensureParent destination
      change ("Failed to copy file from " ++ source ++ " to " ++ destination)
        (·.copy source destination)) world = (result, world')) :
    ∃ made, Makes world.tree made ∧
      ((∃ failure, result = .error failure) ∧ world'.tree = made ∨
        result = .ok () ∧ made.copy source destination = .ok world'.tree) := by
  have hmakes := makes_ensureParent destination world
  rw [outcome_bind] at h
  rcases hensure : outcome (ensureParent destination) world with ⟨failure | ⟨⟩, between⟩
  · rw [hensure] at h hmakes
    cases h
    exact ⟨_, hmakes, .inl ⟨⟨failure, rfl⟩, rfl⟩⟩
  · rw [hensure] at h hmakes
    simp only [outcome_change] at h
    refine ⟨between.tree, hmakes, ?_⟩
    cases hcopy : between.tree.copy source destination with
    | error fault =>
      rw [hcopy] at h
      cases h
      exact .inl ⟨⟨_, rfl⟩, rfl⟩
    | ok tree =>
      rw [hcopy] at h
      cases h
      exact .inr ⟨rfl, rfl⟩

/-- How a copy can end: what stands at its destination cannot be removed, or the copy goes on
without it. -/
theorem replaceFile_cases (h : outcome (replaceFile source destination) world = (result, world')) :
    ((∃ failure, result = .error failure) ∧ world'.tree = world.tree ∧
      ∀ location, ¬ Removes world.tree destination location) ∨
    ∃ cleared made, Cleared world.tree destination cleared ∧ Makes cleared made ∧
      ((∃ failure, result = .error failure) ∧ world'.tree = made ∨
        result = .ok () ∧ made.copy source destination = .ok world'.tree) := by
  rw [replaceFile, outcome_bind, outcome_ask] at h
  cases hpresent : world.tree.present destination with
  | false =>
    simp only [hpresent, Bool.false_eq_true, if_false] at h
    obtain ⟨made, hmakes, hends⟩ := copy_cases h
    exact .inr ⟨world.tree, made, .inl ⟨hpresent, rfl⟩, hmakes, hends⟩
  | true =>
    simp only [hpresent, if_true] at h
    rw [outcome_bind, outcome_change] at h
    cases hremove : world.tree.remove destination with
    | error fault =>
      rw [hremove] at h
      cases h
      -- the removal fails, and nothing else is tried
      refine .inl ⟨⟨_, rfl⟩, rfl, fun location hremoves => ?_⟩
      cases hremove.symm.trans hremoves.2
    | ok cleared =>
      rw [hremove] at h
      obtain ⟨made, hmakes, hends⟩ := copy_cases h
      obtain ⟨inside, name, rfl, -⟩ := remove_cases hremove
      exact .inr ⟨_, made, .inr ⟨inside ++ [name], ⟨hpresent, hremove⟩, rfl⟩, hmakes, hends⟩

/-! ### Sources -/

/-- The removal takes away something that the source needs. -/
def Hits (tree : FileTree) (source destination : String) : Prop :=
  ∃ location, Removes tree destination location ∧ Needs tree source location

/-- A source that is not hit can be read when the copy is made. -/
theorem resolve_of_cleared {tree cleared made : FileTree} (hits : ¬ Hits tree source destination)
    (hcleared : Cleared tree destination cleared) (hmakes : Makes cleared made) {file : Location}
    {content : ByteArray} (hsource : tree.resolve source = .ok (file, .file content)) :
    made.resolve source = .ok (file, .file content) := by
  have hleft : cleared.resolve source = .ok (file, .file content) := by
    rcases hcleared with ⟨-, rfl⟩ | ⟨location, hremoves, rfl⟩
    · exact hsource
    · exact resolve_erase hsource hremoves.not_directory fun hneeds =>
        hits ⟨location, hremoves, hneeds⟩
  have hnode := (node?_of_resolve hleft).2
  exact resolve_file_again hmakes.grows.keeps hleft (hmakes.node?_file hnode)

/-- In a tree without links only the file at the same location can be hit. -/
theorem spelled_of_hits {tree : FileTree} (hlinkless : tree.Linkless)
    (h : Hits tree source destination) :
    spelled tree.current source = spelled tree.current destination := by
  obtain ⟨location, hremoves, hfile | hcrosses⟩ := h
  · obtain ⟨inside, name, rfl, ⟨target, hlink⟩ | ⟨content, -, hwrites⟩⟩ := hremoves.cases
    · exact absurd hlink (hlinkless _ _)
    · rw [← location_of_fileAt? hlinkless hfile, hwrites.location_eq hlinkless]
  · exact absurd hcrosses (not_crossesFrom hlinkless)

/-- If the removal does not hit the source, the source is intact, or it was what the copy went to
and is now empty. -/
theorem source_of_not_hits (hits : ¬ Hits world.tree source destination) {content : ByteArray}
    (hsource : world.tree.read source = .ok content)
    (h : outcome (replaceFile source destination) world = (result, world')) :
    world'.tree.read source = .ok content ∨
      result = .ok () ∧ world'.tree.fileAt? destination = world'.tree.fileAt? source ∧
        world'.tree.read source = .ok .empty := by
  obtain ⟨file, hresolve⟩ := read_eq_ok_iff.1 hsource
  rcases replaceFile_cases h with
    ⟨-, htree, -⟩ | ⟨cleared, made, hcleared, hmakes, ⟨-, htree⟩ | ⟨hok, hcopy⟩⟩
  · exact .inl (by rwa [htree])
  · refine .inl (read_eq_ok_iff.2 ⟨file, ?_⟩)
    rw [htree]
    exact resolve_of_cleared hits hcleared hmakes hresolve
  · rcases source_of_copy hcopy (resolve_of_cleared hits hcleared hmakes hresolve) with
      hsame | ⟨hfile, hempty⟩
    · exact .inl hsame
    · exact .inr ⟨hok, hfile, hempty⟩

/-- A copy to the file that the source leads to takes the file away. It then fails, as there is
nothing left to be copied, and the source cannot be read any more. -/
theorem source_of_removed {location : Location}
    (hfile : world.tree.fileAt? source = some location)
    (hremoves : Removes world.tree destination location)
    (h : outcome (replaceFile source destination) world = (result, world')) :
    (∃ failure, result = .error failure) ∧
      ∀ content, world'.tree.read source ≠ .ok content := by
  rcases replaceFile_cases h with
    ⟨-, -, hnone⟩ | ⟨cleared, made, hcleared, hmakes, hends⟩
  · exact absurd hremoves (hnone location)
  · have herased : cleared = world.tree.erase location := by
      rcases hcleared with ⟨habsent, -⟩ | ⟨other, hother, rfl⟩
      · cases habsent.symm.trans hremoves.1
      · exact Except.ok.inj (hother.2.symm.trans hremoves.2)
    have hunread := not_resolve_of_erase hfile (herased ▸ hmakes)
    rcases hends with ⟨hfailure, htree⟩ | ⟨-, hcopy⟩
    · refine ⟨hfailure, fun content hread => ?_⟩
      obtain ⟨found, hfound⟩ := read_eq_ok_iff.1 hread
      rw [htree] at hfound
      exact hunread found content hfound
    · obtain ⟨hsource, -⟩ := copy_eq_ok_iff.1 hcopy
      obtain ⟨found, content, hfound⟩ := isFile_eq_true_iff.1 hsource
      exact absurd hfound (hunread found content)

/-- Without links, a source that is spelled otherwise than the destination reads as it did. -/
theorem source_of_spelled (hlinkless : world.tree.Linkless)
    (hspelled : spelled world.tree.current source ≠ spelled world.tree.current destination)
    {content : ByteArray} (hsource : world.tree.read source = .ok content)
    (h : outcome (replaceFile source destination) world = (result, world')) :
    world'.tree.read source = .ok content := by
  have hits : ¬ Hits world.tree source destination := fun hhits =>
    hspelled (spelled_of_hits hlinkless hhits)
  rcases source_of_not_hits hits hsource h with hsame | ⟨-, hfile, hempty⟩
  · exact hsame
  · -- both paths would lead to one location
    have htouches : Touches (Eq destination) world.tree
        (outcome (replaceFile source destination) world).2.tree :=
      staysIn_replaceFile (Admits.of_allowed rfl) source hlinkless
    rw [h] at htouches
    obtain ⟨location, hresolve⟩ := read_eq_ok_iff.1 hempty
    have hlocation := fileAt?_eq_some_iff.2 ⟨_, hresolve⟩
    have hsame := (location_of_fileAt? (htouches.linkless hlinkless) hlocation).symm.trans
      (location_of_fileAt? (htouches.linkless hlinkless) (hfile.trans hlocation))
    rw [htouches.current] at hsame
    exact absurd hsame hspelled

/-- What becomes of the source of a copy. After a success both paths read the same. However the
copy ends, the source reads as it did before, unless what was removed for the copy is its file or a
link on its way, or the destination leads to its file when the copy is made, which is empty then.
If its own file was removed, the copy fails and the source cannot be read. Without links, the source
is safe from a destination that is spelled otherwise. -/
theorem source_of_replaceFile (source destination : String) (world : World) :
    (∀ world', outcome (replaceFile source destination) world = (.ok (), world') →
      ∃ content, world'.tree.read source = .ok content ∧
        world'.tree.read destination = .ok content) ∧
    ∀ content result world', world.tree.read source = .ok content →
      outcome (replaceFile source destination) world = (result, world') →
      (¬ Hits world.tree source destination →
        world'.tree.read source = .ok content ∨
          result = .ok () ∧ world'.tree.fileAt? destination = world'.tree.fileAt? source ∧
            world'.tree.read source = .ok .empty) ∧
      (∀ location, world.tree.fileAt? source = some location →
        Removes world.tree destination location →
          (∃ failure, result = .error failure) ∧
            ∀ content', world'.tree.read source ≠ .ok content') ∧
      (world.tree.Linkless →
        spelled world.tree.current source ≠ spelled world.tree.current destination →
          world'.tree.read source = .ok content) := by
  constructor
  · intro world' h
    rcases replaceFile_cases h with
      ⟨⟨failure, hfailure⟩, -⟩ | ⟨cleared, made, -, -, ⟨⟨failure, hfailure⟩, -⟩ | ⟨-, hcopy⟩⟩
    · cases hfailure
    · cases hfailure
    · exact read_of_copy hcopy
  · intro content result world' hsource h
    exact ⟨fun hits => source_of_not_hits hits hsource h,
      fun location hfile hremoves => source_of_removed hfile hremoves h,
      fun hlinkless hspelled => source_of_spelled hlinkless hspelled hsource h⟩

end

/-- A tree with a single file. -/
def single : FileTree :=
  ⟨[(["f"], .file "A".toUTF8)], []⟩

/-- The tree has its file. -/
theorem read_single : single.read "f" = .ok "A".toUTF8 := rfl

/-- It has no links. -/
theorem linkless_single : single.Linkless :=
  linkless_of_entries (by simp [single])

/-- A copy to another name leaves the source, and a copy to its own name fails without it. -/
theorem source_of_replaceFile_single :
    (∃ world', outcome (replaceFile "f" "g") ⟨single, []⟩ = (.ok (), world') ∧
      ¬ Hits single "f" "g" ∧ world'.tree.read "f" = .ok "A".toUTF8 ∧
      world'.tree.read "g" = .ok "A".toUTF8) ∧
    ∃ failure world', outcome (replaceFile "f" "f") ⟨single, []⟩ = (.error failure, world') ∧
      ∀ content, world'.tree.read "f" ≠ .ok content := by
  constructor
  · obtain ⟨hboth, hsource⟩ := source_of_replaceFile "f" "g" ⟨single, []⟩
    have hok : (outcome (replaceFile "f" "g") ⟨single, []⟩).1.isOk = true := by
      decide +kernel
    obtain ⟨world', hresult⟩ := exists_of_isOk hok
    have hspelled : spelled single.current "f" ≠ spelled single.current "g" := by decide
    obtain ⟨-, -, hsafe⟩ := hsource _ _ _ read_single hresult
    have hkept := hsafe linkless_single hspelled
    obtain ⟨content, hfrom, hto⟩ := hboth world' hresult
    refine ⟨world', hresult, fun hits => hspelled (spelled_of_hits linkless_single hits), hkept, ?_⟩
    rw [hto, ← hfrom, hkept]
  · rcases hresult : outcome (replaceFile "f" "f") ⟨single, []⟩ with ⟨result, world'⟩
    obtain ⟨-, hsource⟩ := source_of_replaceFile "f" "f" ⟨single, []⟩
    obtain ⟨-, hremoved, -⟩ := hsource _ _ _ read_single hresult
    obtain ⟨⟨failure, rfl⟩, hunread⟩ := hremoved ["f"] rfl ⟨rfl, rfl⟩
    exact ⟨failure, world', rfl, hunread⟩

/-- A tree with a file in a directory, and a link to the directory. -/
def linked : FileTree :=
  ⟨[(["d"], .directory), (["d", "f"], .file "A".toUTF8), (["l"], .link "d")], []⟩

/-- A file that is copied onto itself is gone. Spelled through a directory that has to be made, it
is empty. A file that is copied over a link on its own way is out of reach. -/
theorem replaceFile_loses_source :
    (∃ failure world', single.read "f" = .ok "A".toUTF8 ∧
      outcome (replaceFile "f" "f") ⟨single, []⟩ = (.error failure, world') ∧
      ∀ content, world'.tree.read "f" ≠ .ok content) ∧
    (∃ world', single.read "f" = .ok "A".toUTF8 ∧
      outcome (replaceFile "f" "a/../f") ⟨single, []⟩ = (.ok (), world') ∧
      world'.tree.read "f" = .ok .empty) ∧
    ∃ failure world', linked.read "l/f" = .ok "A".toUTF8 ∧
      outcome (replaceFile "l/f" "l") ⟨linked, []⟩ = (.error failure, world') ∧
      ∀ content, world'.tree.read "l/f" ≠ .ok content := by
  refine ⟨?same, ?spelled, ?link⟩
  case same =>
    rcases hresult : outcome (replaceFile "f" "f") ⟨single, []⟩ with ⟨result, world'⟩
    obtain ⟨⟨failure, rfl⟩, hunread⟩ := source_of_removed rfl ⟨rfl, rfl⟩ hresult
    exact ⟨failure, world', read_single, rfl, hunread⟩
  case spelled =>
    have hok : (outcome (replaceFile "f" "a/../f") ⟨single, []⟩).1.isOk = true := by
      decide +kernel
    have hread : (outcome (replaceFile "f" "a/../f") ⟨single, []⟩).2.tree.read "f" =
        .ok .empty := by
      decide +kernel
    obtain ⟨world', hresult⟩ := exists_of_isOk hok
    rw [hresult] at hread
    exact ⟨world', read_single, hresult, hread⟩
  case link =>
    have hfails : (outcome (replaceFile "l/f" "l") ⟨linked, []⟩).1.isOk = false := by
      decide +kernel
    have hunread : ((outcome (replaceFile "l/f" "l") ⟨linked, []⟩).2.tree.read "l/f").isOk =
        false := by
      decide +kernel
    rcases hresult : outcome (replaceFile "l/f" "l") ⟨linked, []⟩ with ⟨failure | ⟨⟩, world'⟩
    · rw [hresult] at hunread
      refine ⟨failure, world', rfl, rfl, fun content hread => ?_⟩
      rw [hread] at hunread
      cases hunread
    · rw [hresult] at hfails
      cases hfails

end Action

end DesignTokens

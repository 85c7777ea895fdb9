import DesignTokens.Proofs.Files.Spelling
import DesignTokens.Proofs.Files.Success

/-!
# What actions leave alone

`Touches allowed old new` is the frame of a change: files differ at the locations that the allowed
paths spell, no directory goes, and directories come at leading parts of these paths. It holds
between all trees on the way of an action, so it tells what an action did that failed half-way. A
copy is the case in point: it removes its destination first, and may fail before it has put a file
there. A path that does not end in a name cannot be written, so that a frame admits it if its
leading parts pass (`Admits`).
-/

set_option autoImplicit false

namespace DesignTokens

open DesignTokens.Action

namespace FileTree

/-! ### Frames -/

/-- An allowed path spells the location. -/
def Names (allowed : String → Prop) (current location : Location) : Prop :=
  ∃ path, allowed path ∧ location = spelled current path

/-- A leading part of an allowed path spells the location. -/
def Passes (allowed : String → Prop) (current location : Location) : Prop :=
  ∃ path, allowed path ∧ Leading current path location

/-- Between two trees, files have changed at most where an allowed path says, and directories have
come at most where a leading part of one says. -/
structure Touches (allowed : String → Prop) (old new : FileTree) : Prop where
  current : new.current = old.current
  /-- What stands elsewhere is what stood there, or a directory where nothing stood. -/
  slice : ∀ location, new.slice location = old.slice location ∨
    Names allowed old.current location ∨
    Passes allowed old.current location ∧ old.slice location = [] ∧
      new.slice location = [.directory]
  /-- No directory goes. -/
  directory : ∀ location, old.node? location = some .directory →
    new.node? location = some .directory
  /-- A directory that has come is a leading part, also where a file could be. -/
  made : ∀ location, new.node? location = some .directory →
    old.node? location = some .directory ∨ Passes allowed old.current location
  /-- No link comes. -/
  link : ∀ location target, new.node? location = some (.link target) →
    old.node? location = some (.link target)

namespace Touches

variable {allowed : String → Prop}

/-- A tree that stays as it is has been touched nowhere. -/
theorem refl (tree : FileTree) : Touches allowed tree tree :=
  ⟨rfl, fun _ => Or.inl rfl, fun _ h => h, fun _ h => Or.inl h, fun _ _ h => h⟩

/-- Two changes that stay among the allowed paths do so together. Each location is either left alone
twice or touched by one of the two. -/
theorem trans {first second third : FileTree} (h : Touches allowed first second)
    (h' : Touches allowed second third) : Touches allowed first third where
  current := h'.current.trans h.current
  slice location := by
    have hlater := h'.slice location
    rw [h.current] at hlater
    rcases hlater with hsame | hnamed | ⟨hpasses, hnothing, hmade⟩
    · rw [hsame]
      exact h.slice location
    · exact Or.inr (Or.inl hnamed)
    · rcases h.slice location with heq | hnamed | ⟨-, -, hdirectory⟩
      · exact Or.inr (Or.inr ⟨hpasses, heq ▸ hnothing, hmade⟩)
      · exact Or.inr (Or.inl hnamed)
      · simp [hnothing] at hdirectory
  directory location hnode := h'.directory location (h.directory location hnode)
  made location hnode := by
    have hlater := h'.made location hnode
    rw [h.current] at hlater
    rcases hlater with hbetween | hpasses
    · exact h.made location hbetween
    · exact Or.inr hpasses
  link location target hnode := h.link location target (h'.link location target hnode)

/-- No link comes into being, so a tree without links stays one. -/
theorem linkless {old new : FileTree} (h : Touches allowed old new) (hold : old.Linkless) :
    new.Linkless :=
  fun location target hnode => hold location target (h.link location target hnode)

/-- The tree behind a change in a tree without links has no links either. -/
theorem trans_of_linkless {first second third : FileTree}
    (h : first.Linkless → Touches allowed first second)
    (h' : second.Linkless → Touches allowed second third) (hfirst : first.Linkless) :
    Touches allowed first third :=
  (h hfirst).trans (h' ((h hfirst).linkless hfirst))

/-! ### Changes in a frame -/

section
variable {tree : FileTree} {path : String} {inside : Location} {name : String}

/-- A file is written at the location that the path spells, so writing it stays in every frame that
allows the path. A link would lead elsewhere, and there is none. -/
theorem put_file (hlinkless : tree.Linkless) (hpath : allowed path)
    (h : WritesAt tree path inside name) (content : ByteArray) :
    Touches allowed tree (tree.put (inside ++ [name]) (.file content)) where
  current := rfl
  slice location := by
    by_cases heq : location = inside ++ [name]
    · exact Or.inr (Or.inl ⟨path, hpath, heq ▸ h.location_eq hlinkless⟩)
    · exact Or.inl (by rw [slice_put, if_neg heq])
  directory location hnode := by
    have hne : location ≠ inside ++ [name] := by
      rintro rfl
      obtain ⟨content, heq⟩ := h.replaces _ hnode
      cases heq
    rwa [node?_put_of_ne _ hne]
  made location hnode := by
    by_cases heq : location = inside ++ [name]
    · rw [heq, node?_put_self _ (by simp)] at hnode
      cases hnode
    · exact Or.inl (by rwa [node?_put_of_ne _ heq] at hnode)
  link location target hnode := by
    by_cases heq : location = inside ++ [name]
    · rw [heq, node?_put_self _ (by simp)] at hnode
      cases hnode
    · rwa [node?_put_of_ne _ heq] at hnode

/-- A file is removed at the location that the path spells. The frame does not tell an erasure from
a write, as it says where a tree may differ and not how. -/
theorem erase_file (hlinkless : tree.Linkless) (hpath : allowed path)
    (h : WritesAt tree path inside name) {content : ByteArray}
    (hfile : tree.node? (inside ++ [name]) = some (.file content)) :
    Touches allowed tree (tree.erase (inside ++ [name])) where
  current := rfl
  slice location := by
    by_cases heq : location = inside ++ [name]
    · exact Or.inr (Or.inl ⟨path, hpath, heq ▸ h.location_eq hlinkless⟩)
    · exact Or.inl (by rw [slice_erase, if_neg heq])
  directory location hnode := (keeps_erase hfile).directory hnode
  made location hnode := by
    by_cases heq : location = inside ++ [name]
    · rw [heq, node?_erase_self _ (by simp)] at hnode
      cases hnode
    · exact Or.inl (by rwa [node?_erase_of_ne _ heq] at hnode)
  link location target hnode := by
    by_cases heq : location = inside ++ [name]
    · rw [heq, node?_erase_self _ (by simp)] at hnode
      cases hnode
    · rwa [node?_erase_of_ne _ heq] at hnode

/-- A new folder is a change of the allowed kind if an allowed path passes through it. -/
theorem put_directory {location : Location} (hroot : location ≠ [])
    (hnode : tree.node? location = none) (hpasses : Passes allowed tree.current location) :
    Touches allowed tree (tree.put location .directory) where
  current := rfl
  slice other := by
    by_cases heq : other = location
    · subst heq
      exact Or.inr (Or.inr ⟨hpasses, slice_eq_nil hnode, by rw [slice_put, if_pos rfl]⟩)
    · exact Or.inl (by rw [slice_put, if_neg heq])
  directory other hdirectory := (Makes.put_directory hnode).grows.directory hdirectory
  made other hdirectory := by
    by_cases heq : other = location
    · exact Or.inr (heq ▸ hpasses)
    · exact Or.inl (by rwa [node?_put_of_ne _ heq] at hdirectory)
  link other target hlink := by
    by_cases heq : other = location
    · rw [heq, node?_put_self _ hroot] at hlink
      cases hlink
    · rwa [node?_put_of_ne _ heq] at hlink

/-- Directories come at the location that the path spells and at its leading parts, however many of
them could be made. -/
theorem makeDirectories {directory : String} (depth : Nat) (hlinkless : tree.Linkless)
    (hpasses : ∀ location, location = spelled tree.current directory ∨
      Leading tree.current directory location → Passes allowed tree.current location) :
    Touches allowed tree (tree.makeDirectories directory depth).1 := by
  -- one directory at a time: its part of the path is passed, and paths start where they did
  have hmade {old new : FileTree} (hold : old.Linkless) (hcurrent : old.current = tree.current)
      {part : String}
      (hpart : Passes allowed tree.current (spelled tree.current part))
      (h : old.makeDirectory part = .ok new) : Touches allowed old new := by
    obtain ⟨hroot, hnode, rfl⟩ := put_of_makeDirectory hold h
    exact put_directory hroot hnode (hcurrent ▸ hpart)
  induction depth generalizing directory with
  | zero => exact refl tree
  | succ depth ih =>
    rw [FileTree.makeDirectories]
    split
    · exact refl tree
    · cases hfirst : tree.makeDirectory directory with
      | ok made => exact hmade hlinkless rfl (hpasses _ (Or.inl rfl)) hfirst
      | error fault =>
        by_cases hmissing : fault.kind = .notFound
        · simp only [hmissing, if_true]
          cases hparent : Path.parent? directory with
          | none => exact refl tree
          | some parent =>
            -- what leads to the parent is a leading part of the path
            have hparents := ih fun location hlocation =>
              hpasses location (Or.inr (leading_of_parent? hparent hlocation))
            rcases hresult : tree.makeDirectories parent depth with ⟨between, fault' | ⟨⟩⟩
            · rw [hresult] at hparents
              simp only [hresult]
              exact hparents
            · rw [hresult] at hparents
              simp only [hresult]
              cases hagain : between.makeDirectory directory with
              | ok made =>
                exact hparents.trans (hmade (hparents.linkless hlinkless) hparents.current
                  (hpasses _ (Or.inl rfl)) hagain)
              | error fault'' =>
                dsimp only
                split <;> exact hparents
        · simp only [hmissing, if_false]
          split <;> exact refl tree

end

end Touches

/-! ### Paths in a frame -/

/-- The path ends in a name, as every path does that can be written. -/
structure EndsInName (path : String) : Prop where
  noSlash : endsInSlash path = false
  last : ∃ before name, components path = before ++ [name] ∧ name ≠ "." ∧ name ≠ ".."

/-- What is written has a name of its own at the end of its path. -/
theorem WritesAt.endsInName {tree : FileTree} {path : String} {inside : Location} {name : String}
    (h : WritesAt tree path inside name) : EndsInName path := by
  obtain ⟨⟨_, last⟩, hstep⟩ := h.steps
  obtain ⟨-, before, hnames, -, hdot, hup⟩ := lastStep_eq_ok_iff.1 hstep
  exact ⟨h.noSlash, before, last, hnames, hdot, hup⟩

/-- Whatever is tried at the path stays in the frame: it is allowed if it can be written at all, and
its leading parts are leading parts of allowed paths. -/
structure Admits (allowed : String → Prop) (path : String) : Prop where
  written : EndsInName path → allowed path
  leading : ∀ current location, Leading current path location → Passes allowed current location

/-- A path is admitted if it is allowed as it stands. -/
theorem Admits.of_allowed {allowed : String → Prop} {path : String} (h : allowed path) :
    Admits allowed path :=
  ⟨fun _ => h, fun _ _ hleading => ⟨path, h, hleading⟩⟩

/-- More allowed paths admit more. -/
theorem Admits.mono {allowed allowed' : String → Prop} {path : String} (h : Admits allowed path)
    (himp : ∀ path, allowed path → allowed' path) : Admits allowed' path where
  written hends := himp path (h.written hends)
  leading current location hleading := by
    obtain ⟨other, hother, hpasses⟩ := h.leading current location hleading
    exact ⟨other, himp other hother, hpasses⟩

end FileTree

/-! ### Actions in a frame -/

namespace Action

open FileTree

/-- Whatever the action comes to in a tree without links, it touches what is allowed only. -/
def StaysIn (allowed : String → Prop) {α : Type} (world : World) (action : Action α) : Prop :=
  world.tree.Linkless → Touches allowed world.tree (outcome action world).2.tree

section
variable {allowed : String → Prop} {α β : Type} {world : World}

/-- A step that leaves the tree alone stays among any paths. -/
theorem StaysIn.of_same {action : Action α} (h : (outcome action world).2.tree = world.tree) :
    StaysIn allowed world action := by
  intro _
  rw [h]
  exact Touches.refl _

/-- A sequence stays among the allowed paths if its steps do, the second one from whatever world and
value the first one has come to. -/
theorem StaysIn.bind {action : Action α} {next : α → Action β}
    (haction : StaysIn allowed world action)
    (hnext : ∀ a world', outcome action world = (.ok a, world') →
      StaysIn allowed world' (next a)) : StaysIn allowed world (action >>= next) :=
  tree_bind (R := fun old new => old.Linkless → Touches allowed old new)
    Touches.trans_of_linkless haction hnext

/-- A question about the tree changes nothing. -/
theorem staysIn_ask (question : FileTree → α) : StaysIn allowed world (ask question) :=
  StaysIn.of_same rfl

/-- Neither does one that can fail. -/
theorem staysIn_look (context : String) (question : FileTree → Except FileFault α) :
    StaysIn allowed world (look context question) := by
  apply StaysIn.of_same
  rw [outcome_look]
  cases question world.tree <;> rfl

/-- A change stays among the allowed paths if what it makes of a tree without links does. -/
theorem staysIn_change {context : String} {step : FileTree → Except FileFault FileTree}
    (h : world.tree.Linkless → ∀ tree, step world.tree = .ok tree →
      Touches allowed world.tree tree) : StaysIn allowed world (change context step) := by
  intro hlinkless
  rw [outcome_change]
  cases hstep : step world.tree with
  | error fault => exact Touches.refl _
  | ok tree => exact h hlinkless tree hstep

/-- The folders that are made on the way to an admitted path lie on it. -/
theorem staysIn_ensureParent {path : String} (hpath : Admits allowed path) :
    StaysIn allowed world (ensureParent path) := by
  unfold ensureParent
  split
  · rename_i parent hparent
    intro hlinkless
    have hmakes : Touches allowed world.tree
        (world.tree.makeDirectories parent (parent.length + 1)).1 := by
      apply Touches.makeDirectories _ hlinkless
      exact fun location hlocation => hpath.leading _ _ (leading_of_parent? hparent hlocation)
    rw [outcome_ensureDirectory]
    split
    · split <;> exact Touches.refl _
    · rcases hresult : world.tree.makeDirectories parent (parent.length + 1) with
        ⟨tree, fault | ⟨⟩⟩ <;> rwa [hresult] at hmakes
  · exact StaysIn.of_same rfl

/-- Writing a file touches its own path and the folders on the way to it. -/
theorem staysIn_writeText {path : String} (hpath : Admits allowed path) (content : String) :
    StaysIn allowed world (writeText path content) := by
  apply (staysIn_ensureParent hpath).bind
  intro _ _ _
  apply staysIn_change
  intro hlinkless tree hwrite
  obtain ⟨inside, name, hwrites, rfl⟩ := write_eq_ok_iff.1 hwrite
  exact Touches.put_file hlinkless (hpath.written hwrites.endsInName) hwrites _

/-- This is so also for a copy that fails after it has removed the file at its destination. -/
theorem staysIn_replaceFile {destination : String} (hpath : Admits allowed destination)
    (source : String) : StaysIn allowed world (replaceFile source destination) := by
  have hcopy (start : World) : StaysIn allowed start (do
      ensureParent destination
      change ("Failed to copy file from " ++ source ++ " to " ++ destination)
        (·.copy source destination)) := by
    apply (staysIn_ensureParent hpath).bind
    intro _ _ _
    apply staysIn_change
    intro hlinkless tree htree
    obtain ⟨-, inside, name, content, hwrites, -, rfl⟩ := copy_eq_ok_iff.1 htree
    exact Touches.put_file hlinkless (hpath.written hwrites.endsInName) hwrites content
  apply (staysIn_ask _).bind
  intro present start _
  cases present with
  | false => exact hcopy start
  | true =>
    apply StaysIn.bind _ fun _ removed _ => hcopy removed
    apply staysIn_change
    intro hlinkless tree hremove
    obtain ⟨inside, name, rfl, ⟨target, hlink⟩ | ⟨content, hnode, hwrites⟩⟩ := remove_cases hremove
    · exact absurd hlink (hlinkless _ target)
    · exact Touches.erase_file hlinkless (hpath.written hwrites.endsInName) hwrites hnode

end

end Action

end DesignTokens

import DesignTokens.Proofs.Generate.Growth
import DesignTokens.Proofs.Generate.Uses
import DesignTokens.Proofs.Template.Alike
import DesignTokens.Proofs.Template.Bundled

/-!
# The second of two runs

A run takes a tree from `before` to `after`, and then the same run starts in `after`. The proof
follows both runs action by action. While the first run has a tree, the second one `Mirrors` it:
each location is as the first run has it now, or neither run has reached it, and the second still
finds there what the first will leave. At the end of the first run both are `after`.

`Replays` says of an action that the second run takes the same step as the first one; all generators
inherit it. What keeps the answers the same is that a location is a target, or is as it was before,
or holds a directory that was made (`Changed`), and that nothing is read from a target.

The second run has an engine of its own, since the functions of templates may tell the time or draw
numbers. A template comes to the same text again if the two engines are alike for the functions that
it calls.
-/

set_option autoImplicit false

namespace DesignTokens

open DesignTokens.Action DesignTokens.FileTree
open DesignTokens.Template (Engine)

/-! ### Trees between the two -/

/-- Besides directories that were made where nothing stood, only targets have changed. -/
def Changed (before after : FileTree) (uses : List FileUse) (tree : FileTree) : Prop :=
  ∀ location, tree.slice location = before.slice location ∨
    (before.slice location = [] ∧ tree.slice location = [.directory]) ∨
    Target after uses location

/-- The second run has the tree `again` where the first has `tree`. -/
structure Mirrors (before after tree again : FileTree) : Prop where
  grows : Grows after again
  slice : ∀ location, again.slice location = tree.slice location ∨
    (again.slice location = after.slice location ∧ tree.slice location = before.slice location)

/-- The file that a path leads to is no target. -/
def Safe (after : FileTree) (uses : List FileUse) (path : String) : Prop :=
  ∀ location, after.fileAt? path = some location → ¬ Target after uses location

section
variable {before after tree new again : FileTree} {uses : List FileUse}

/-- Before a run has done anything, nothing is changed. -/
theorem Changed.start : Changed before after uses before :=
  fun _ => Or.inl rfl

/-- The second run starts on the tree that the first one has left, as a mirror of the tree
before. -/
theorem Mirrors.start : Mirrors before after before after :=
  ⟨Grows.refl after, fun _ => Or.inr ⟨rfl, rfl⟩⟩

/-- At the end of the first run the second has the same tree. -/
theorem Mirrors.finish (h : Mirrors before after after again) (location : Location) :
    again.slice location = after.slice location := by
  rcases h.slice location with hsame | ⟨hsame, -⟩
  · exact hsame
  · exact hsame

/-- A tree that mirrors one of the first run differs from the start in the same places only. -/
theorem Mirrors.changed (h : Mirrors before after tree again)
    (htree : Changed before after uses tree) (hafter : Changed before after uses after) :
    Changed before after uses again := by
  intro location
  rcases h.slice location with hsame | ⟨hsame, -⟩
  · rw [hsame]
    exact htree location
  · rw [hsame]
    exact hafter location

/-- A file that is no target is the same at all times. -/
theorem Changed.file_again (htree : Changed before after uses tree)
    (hnew : Changed before after uses new) {location : Location} {content : ByteArray}
    (hlocation : ¬ Target after uses location)
    (hnode : tree.node? location = some (.file content)) :
    new.node? location = some (.file content) := by
  have hroot := ne_nil_of_file hnode
  rw [node?_eq_head? _ hroot] at hnode ⊢
  rcases htree location with hsame | ⟨-, hmade⟩ | htarget
  · rcases hnew location with hsame' | ⟨hnothing, -⟩ | htarget
    · rw [hsame', ← hsame, hnode]
    · simp [hsame, hnothing] at hnode
    · exact absurd htarget hlocation
  · simp [hmade] at hnode
  · exact absurd htarget hlocation

/-! ### Writing in both runs -/

section
variable {path : String} {inside : Location} {name : String} {content : ByteArray}

/-- A file that is written under one of the run's own paths is a change of the expected kind. -/
theorem Changed.written (h : Changed before after uses tree)
    (hwritten : Written tree new path inside name content) (hend : Grows new after)
    (hpath : .writes path ∈ uses) : Changed before after uses new := by
  intro location
  by_cases hhere : location = inside ++ [name]
  · subst hhere
    refine Or.inr (Or.inr ⟨path, hpath, ?_⟩)
    exact fileAt?_again hend (fileAt?_eq_some_iff.2 ⟨content, hwritten.resolve⟩)
  rcases hwritten.beside location hhere with hsame | ⟨hnothing, hmade⟩
  · rw [hsame]
    exact h location
  · rcases h location with hbefore | ⟨-, hdirectory⟩ | htarget
    · exact Or.inr (Or.inl ⟨hbefore ▸ hnothing, hmade⟩)
    · simp [hnothing] at hdirectory
    · exact Or.inr (Or.inr htarget)

/-- The second run puts the same file there; it has the directories on the way already. -/
theorem Mirrors.written (h : Mirrors before after tree again)
    (hwritten : Written tree new path inside name content) (hend : Grows new after) :
    Mirrors before after new (again.put (inside ++ [name]) (.file content)) := by
  have hgrows : Grows new again := hend.trans h.grows
  constructor
  · apply h.grows.trans
    apply Grows.put_file content (by simp)
    intro node hnode
    obtain ⟨content', hfile⟩ := hgrows.file hwritten.node?
    rw [hfile] at hnode
    cases hnode
    exact ⟨content', rfl⟩
  · intro location
    rw [slice_put]
    -- besides the file, only directories on the way have come, and they stay
    by_cases hhere : location = inside ++ [name]
    · rw [if_pos hhere, hhere, hwritten.here]
      exact Or.inl rfl
    · rw [if_neg hhere]
      rcases hwritten.beside location hhere with hsame | ⟨-, hmade⟩
      · rw [hsame]
        exact h.slice location
      · rw [hmade, hgrows.slice_directory hmade]
        exact Or.inl rfl

end

/-! ### Reading in both runs -/

/-- What a safe path leads to is the same in both runs. -/
theorem resolve_safe {path : String} {location : Location} {content : ByteArray}
    (hsafe : Safe after uses path) (hend : Grows tree after) (hgrows : Grows tree again)
    (htree : Changed before after uses tree) (hagain : Changed before after uses again)
    (h : tree.resolve path = .ok (location, .file content)) :
    again.resolve path = .ok (location, .file content) := by
  have htarget : ¬ Target after uses location :=
    hsafe location (fileAt?_again hend (fileAt?_eq_some_iff.2 ⟨content, h⟩))
  exact resolve_file_again hgrows.keeps h
    (htree.file_again hagain htarget (node?_of_resolve h).2)

/-- The text at a safe path is the same in both runs. -/
theorem readText_safe {path text : String} (hsafe : Safe after uses path)
    (hend : Grows tree after) (hgrows : Grows tree again)
    (htree : Changed before after uses tree) (hagain : Changed before after uses again)
    (h : tree.readText path = .ok text) : again.readText path = .ok text := by
  obtain ⟨content, hread, hdecode⟩ := Result.bind_eq_ok_iff.1 h
  obtain ⟨location, hresolve⟩ := read_eq_ok_iff.1 hread
  have hresolve' := resolve_safe hsafe hend hgrows htree hagain hresolve
  exact Result.bind_eq_ok_iff.2 ⟨content, read_eq_ok_iff.2 ⟨location, hresolve'⟩, hdecode⟩

/-- If reads and writes are separate, a path that is read is safe: no write of the run reaches
it. -/
theorem Separate.safe_of_reads (h : Separate after uses) {path : String}
    (hpath : .reads path ∈ uses) : Safe after uses path := by
  intro location hfile htarget
  exact h location htarget _ hpath hfile

/-- No file of a directory that is listed is a target. -/
theorem Separate.not_target (h : Separate after uses) {directory : String} {inside : Location}
    (hlists : .lists directory ∈ uses) (hdirectory : after.directoryAt? directory = some inside)
    (name : String) : ¬ Target after uses (inside ++ [name]) := by
  intro htarget
  apply h _ htarget _ hlists
  rw [hdirectory, List.dropLast_concat]

/-- A name in a folder that is listed is safe as well. -/
theorem Separate.safe_of_lists (h : Separate after uses) (hlinkless : after.Linkless)
    {directory name : String} {inside : Location} (hlists : .lists directory ∈ uses)
    (hdirectory : after.directoryAt? directory = some inside) (hname : ProperName name) :
    Safe after uses (Path.join directory name) := by
  intro location hfile
  obtain ⟨content, hresolve⟩ := fileAt?_eq_some_iff.1 hfile
  rw [resolve_join (hlinkless _) hname (directoryAt?_eq_some_iff.1 hdirectory) hresolve]
  exact h.not_target hlists hdirectory name

/-- A directory that is listed shows the same files at all times. -/
theorem Separate.visibleFiles_eq (h : Separate after uses) {directory : String}
    {inside : Location} (hlists : .lists directory ∈ uses)
    (hdirectory : after.directoryAt? directory = some inside)
    (htree : Changed before after uses tree) :
    tree.visibleFiles inside = before.visibleFiles inside := by
  apply FileTree.visibleFiles_eq
  intro name
  rcases htree (inside ++ [name]) with hsame | ⟨hnothing, hmade⟩ | htarget
  · rw [hsame]
  · simp [hnothing, hmade]
  · exact absurd htarget (h.not_target hlists hdirectory name)

/-- What is found in a directory at any time is what the directory held before. -/
theorem Separate.filesIn_eq (hsep : Separate after uses)
    (hchanged : Changed before after uses tree) (hend : Grows tree after)
    {directory : String} {location : Location} (hlists : .lists directory ∈ uses)
    (h : tree.directoryAt? directory = some location) :
    ImageSet.filesIn tree tree directory = ImageSet.filesIn before after directory := by
  have hlater := directoryAt?_again hend h
  simp only [ImageSet.filesIn, h, hlater, hsep.visibleFiles_eq hlists hlater hchanged]

/-- Nor is a file a target that was found in such a directory. -/
theorem Separate.safe_of_listed (hsep : Separate after uses) (hplain : before.Plain)
    (hchanged : Changed before after uses tree)
    (hstart : Grows before tree) (hend : Grows tree after) {source : String}
    (h : Listed tree uses source) : Safe after uses source := by
  obtain ⟨directory, hlists, hsource⟩ := h
  unfold ImageSet.filesIn at hsource
  cases hlocation : tree.directoryAt? directory with
  | none => simp [hlocation] at hsource
  | some location =>
    have hlater := directoryAt?_again hend hlocation
    simp only [hlocation, hsep.visibleFiles_eq hlists hlater hchanged] at hsource
    obtain ⟨name, hname, rfl⟩ := List.mem_map.1 hsource
    have hlinkless := (hstart.trans hend).linkless hplain.linkless
    exact hsep.safe_of_lists hlinkless hlists hlater (hplain.properName hname)

end

/-! ### Replayed actions -/

/-- Whenever the action succeeds in the first run it succeeds in the second run with the same
result, whose engine is the second one, and besides directories it changes targets only. -/
structure Replays [first : Engine] (second : Engine) (before after : FileTree)
    (uses : List FileUse) {α : Type} (world : World) (action : Engine → Action α) : Prop where
  grown : Grown world (action first)
  again : ∀ a world', outcome (action first) world = (.ok a, world') →
    Grows before world.tree → Grows world'.tree after → Changed before after uses world.tree →
    Changed before after uses world'.tree ∧
      (Changed before after uses after → ∀ again log, Mirrors before after world.tree again →
        ∃ world'', outcome (action second) ⟨again, log⟩ = (.ok a, world'') ∧
          Mirrors before after world'.tree world''.tree)

section
-- the first engine stands last, so that it is the one that is meant where none is named
variable {second : Engine} [first : Engine] {before after : FileTree} {uses : List FileUse}

/-- An action whose result is the same in both runs and that changes no file. -/
theorem Replays.of_reads {α : Type} {world : World} {action : Engine → Action α}
    (hsame : ∀ a world', outcome (action first) world = (.ok a, world') →
      world'.tree = world.tree)
    (hagain : ∀ a world', outcome (action first) world = (.ok a, world') →
      Grows world.tree after → Changed before after uses world.tree →
      Changed before after uses after → ∀ again log, Mirrors before after world.tree again →
        ∃ world'', outcome (action second) ⟨again, log⟩ = (.ok a, world'') ∧
          world''.tree = again) :
    Replays second before after uses world action := by
  refine ⟨Grown.of_same hsame, ?_⟩
  intro a world' h hstart hend hchanged
  rw [hsame a world' h] at hend ⊢
  refine ⟨hchanged, ?_⟩
  intro hafter again log hmirrors
  obtain ⟨world'', hrun, htree⟩ := hagain a world' h hend hchanged hafter again log hmirrors
  exact ⟨world'', hrun, htree ▸ hmirrors⟩

/-- If two steps do the same again, so does the sequence of them. The tree between the steps lies
between `before` and `after`, as both only grow; so the second step starts, in the second run too,
from a tree that mirrors the one that it started from in the first. -/
theorem Replays.bind (hlinkless : before.Linkless) {α β : Type} {action : Engine → Action α}
    {next : Engine → α → Action β} {world : World}
    (haction : Replays second before after uses world action)
    (hnext : ∀ a world', outcome (action first) world = (.ok a, world') →
      Replays second before after uses world' fun engine => next engine a) :
    Replays second before after uses world fun engine => action engine >>= next engine := by
  refine ⟨inherited_grown.bind haction.grown fun a world' h => (hnext a world' h).grown, ?_⟩
  intro b world'' h hstart hend hchanged
  obtain ⟨a, world', hfirst, hsecond⟩ := outcome_bind_ok_iff.1 h
  have hnext := hnext a world' hfirst
  have hstart' := hstart.trans (haction.grown a world' hfirst (hstart.linkless hlinkless))
  have hend' := (hnext.grown b world'' hsecond (hstart'.linkless hlinkless)).trans hend
  obtain ⟨hchanged', hagain⟩ := haction.again a world' hfirst hstart hend' hchanged
  obtain ⟨hchanged'', hagain'⟩ := hnext.again b world'' hsecond hstart' hend hchanged'
  refine ⟨hchanged'', ?_⟩
  intro hafter again log hmirrors
  obtain ⟨between, hrun, hmirrors'⟩ := hagain hafter again log hmirrors
  obtain ⟨final, hrun', hmirrors''⟩ := hagain' hafter between.tree between.log hmirrors'
  exact ⟨final, outcome_bind_ok_iff.2 ⟨a, between, hrun, hrun'⟩, hmirrors''⟩

/-- Being repeated is inherited. What a sequence needs is `Replays.bind`; all other steps leave the
files alone, so that they only have to give the same result again. -/
theorem inherited_replays (hlinkless : before.Linkless) :
    Inherited (Replays second before after uses) where
  pure a world := by
    apply Replays.of_reads
    · intro a' world' h
      cases h
      rfl
    · intro a' world' h _ _ _ again log _
      cases h
      exact ⟨_, rfl, rfl⟩
  throw failure world := by
    apply Replays.of_reads
    · intro a world' h
      cases h
    · intro a world' h
      cases h
  log level message world := by
    apply Replays.of_reads
    · intro a world' h
      cases h
      rfl
    · intro a world' h _ _ _ again log _
      cases h
      exact ⟨_, outcome_log _ _ _, rfl⟩
  require {question} hquestion failure world := by
    apply Replays.of_reads
    · intro a world' h
      rw [(outcome_require_ok_iff.1 h).2]
    · intro a world' h hend _ _ again log hmirrors
      have hanswer := (outcome_require_ok_iff.1 h).1
      have hagain := hquestion _ _ (hend.trans hmirrors.grows) hanswer
      exact ⟨_, outcome_require_ok_iff.2 ⟨hagain, rfl⟩, rfl⟩
  bind := Replays.bind hlinkless
  within := by
    intro α context action world h
    refine ⟨inherited_grown.within h.grown, ?_⟩
    intro a world' hrun
    simp only [outcome_within_ok_iff]
    exact h.again a world' (outcome_within_ok_iff.1 hrun)

/-! ### Replayed steps -/

/-- A read that is safe finds the same text in the second run as in the first. -/
theorem replays_readText {path : String} (hsafe : Safe after uses path) (world : World) :
    Replays second before after uses world fun _ => Action.readText path := by
  apply Replays.of_reads
  · intro text world' h
    rw [(outcome_look_ok_iff.1 h).2]
  · intro text world' h hend hchanged hafter again log hmirrors
    have htext := readText_safe hsafe hend (hend.trans hmirrors.grows) hchanged
      (hmirrors.changed hchanged hafter) (outcome_look_ok_iff.1 h).1
    exact ⟨⟨again, log⟩, outcome_look_ok_iff.2 ⟨htext, rfl⟩, rfl⟩

/-- A listing finds the same files again, because the run adds none to the folder. -/
theorem replays_listFiles (hsep : Separate after uses) {directory : String}
    (hlists : .lists directory ∈ uses) (world : World) :
    Replays second before after uses world fun _ => listFiles directory := by
  apply Replays.of_reads
  · intro files world' h
    rw [(ImageSet.filesIn_of_listFiles h).2.2]
  · intro files world' h hend hchanged hafter again log hmirrors
    obtain ⟨location, hlocation, rfl, rfl⟩ := outcome_listFiles_ok_iff.1 h
    have hlater := directoryAt?_again hend hlocation
    refine ⟨⟨again, log⟩, outcome_listFiles_ok_iff.2
      ⟨location, directoryAt?_again hmirrors.grows hlater, ?_, rfl⟩, rfl⟩
    rw [hsep.visibleFiles_eq hlists hlater hchanged,
      hsep.visibleFiles_eq hlists hlater (hmirrors.changed hchanged hafter)]

/-- A write leaves the file again that is there already, so the second run comes to the same
tree. -/
theorem replays_writeText {path : String} (hpath : .writes path ∈ uses) (content : String)
    (world : World) : Replays second before after uses world fun _ => writeText path content := by
  refine ⟨grown_writeText path content world, ?_⟩
  intro a world' h hstart hend hchanged
  obtain ⟨inside, name, hwritten⟩ := writeText_spec h
  refine ⟨hchanged.written hwritten hend hpath, ?_⟩
  intro hafter again log hmirrors
  have hgrows : Grows world'.tree again := hend.trans hmirrors.grows
  obtain ⟨content', hnode⟩ := hgrows.file hwritten.node?
  exact ⟨_, writeText_again hwritten hgrows.keeps hnode log, hmirrors.written hwritten hend⟩

/-- The source is no target, so the copy does not remove it and finds the same bytes in it. -/
theorem replays_replaceFile (hlinkless : before.Linkless) {source destination : String}
    (hsource : Safe after uses source) (hdestination : .writes destination ∈ uses)
    (world : World) :
    Replays second before after uses world fun _ => replaceFile source destination := by
  refine ⟨grown_replaceFile source destination world, ?_⟩
  intro a world' h hstart hend hchanged
  obtain ⟨inside, name, content, hwritten, hread⟩ :=
    replaceFile_spec ((hstart.linkless hlinkless).linksStay _) h
  have hchanged' := hchanged.written hwritten hend hdestination
  refine ⟨hchanged', ?_⟩
  intro hafter again log hmirrors
  have hgrows : Grows world'.tree again := hend.trans hmirrors.grows
  obtain ⟨content', hnode⟩ := hgrows.file hwritten.node?
  obtain ⟨location, hresolve⟩ := read_eq_ok_iff.1 hread
  have hagain := resolve_safe hsource hend hgrows hchanged' (hmirrors.changed hchanged hafter)
    hresolve
  -- a source at the place of the copy would be a target
  have hne : location ≠ inside ++ [name] := by
    rintro rfl
    apply hsource _ (fileAt?_again hend (fileAt?_eq_some_iff.2 ⟨content, hresolve⟩))
    exact ⟨destination, hdestination,
      fileAt?_again hend (fileAt?_eq_some_iff.2 ⟨content, hwritten.resolve⟩)⟩
  have hlinkless' : again.Linkless :=
    ((hstart.trans hwritten.grows).trans hgrows).linkless hlinkless
  exact ⟨_, replaceFile_again hwritten hgrows.keeps hlinkless' hnode hagain hne log,
    hmirrors.written hwritten hend⟩

/-- A text renders alike in both runs if its functions are alike. -/
theorem replays_render {name text : String} {context : Members} {world : World}
    (halike : Grows world.tree after → Changed before after uses world.tree →
      Changed before after uses after → first.Alike second (Template.functionsOf text)) :
    Replays second before after uses world fun _ =>
      Action.ofExcept (Template.render name text context) := by
  apply Replays.of_reads
  · intro rendered world' h
    rw [(outcome_ofExcept_ok_iff.1 h).2]
  · intro rendered world' h hend hchanged hafter again log _
    have hsame := Template.renderText_eq_of_alike (halike hend hchanged hafter) context
    have hrendered := (outcome_ofExcept_ok_iff.1 h).1
    rw [Template.render, hsame] at hrendered
    exact ⟨⟨again, log⟩, outcome_ofExcept_ok_iff.2 ⟨hrendered, rfl⟩, rfl⟩

/-- A template that calls no function, or only such as both engines answer alike, renders to the
same text in both runs. The functions of a file are those that it calls behind the first run. -/
theorem replays_rendered (hlinkless : before.Linkless) (hsep : Separate after uses)
    {part : List FileUse} (hpart : ∀ use ∈ part, use ∈ uses)
    (halike : first.Alike second (part.flatMap (FileUse.functions after))) {source : TemplateSource}
    (hsource : source.Used part) (context : Members) (world : World) :
    Replays second before after uses world fun _ => source.rendered context := by
  have hP : Inherited (Replays second before after uses) := inherited_replays hlinkless
  cases source with
  | bundled template =>
    apply hP.bind (hP.pure template.content world)
    intro text world' h
    cases h
    apply replays_render
    intro _ _ _
    apply halike.mono
    rw [BundledTemplate.functionsOf_content template hsource]
    exact List.nil_subset _
  | file path =>
    have hsafe := hsep.safe_of_reads (hpart _ hsource)
    apply hP.bind (replays_readText hsafe world)
    intro text world' h
    obtain ⟨hread, rfl⟩ := outcome_look_ok_iff.1 h
    apply replays_render
    intro hend hchanged hafter
    have hlater := readText_safe hsafe hend hend hchanged hafter hread
    apply halike.mono
    intro function hfunction
    refine List.mem_flatMap.2 ⟨_, hsource, ?_⟩
    rw [FileUse.functions, hlater]
    exact hfunction

/-- Steps are replayed that use part of what the run uses, if what they copy is safe. -/
theorem serves_replays (hlinkless : before.Linkless) (hsep : Separate after uses)
    {tree : FileTree} {part : List FileUse} (hpart : ∀ use ∈ part, use ∈ uses)
    (halike : first.Alike second (part.flatMap (FileUse.functions after)))
    (hcopies : ∀ source, Listed tree part source → Safe after uses source) :
    Serves (Replays second before after uses) tree part where
  renders := replays_rendered hlinkless hsep hpart halike
  lists hdirectory := replays_listFiles hsep (hpart _ hdirectory)
  writes hpath := replays_writeText (hpart _ hpath)
  copies hsource hdestination :=
    replays_replaceFile hlinkless (hcopies _ hsource) (hpart _ hdestination)

/-! ### Replayed generators -/

section
variable (hplain : before.Plain) (hsep : Separate after uses)
include hsep

/-- An entry that was generated used what it would have used before, since its directories show
the same files. -/
theorem Separate.uses_eq {kind : EntryKind} {project : Project} {entry : Value}
    {world world' : World} (hchanged : Changed before after uses world.tree)
    (hend : Grows world.tree after)
    (huses : ∀ use ∈ kind.uses before after project entry, use ∈ uses)
    (h : outcome (kind.generate project entry) world = (.ok (), world')) :
    kind.uses world.tree world.tree project entry = kind.uses before after project entry := by
  cases kind with
  | colors => rfl
  | files => rfl
  | images =>
    obtain ⟨output, input, adaptive, houtput, hinput, hadaptive, hdirectories, -⟩ :=
      ImageSet.generate_spec h
    have heq := ImageSet.uses_eq before after project houtput hinput hadaptive
    simp only [EntryKind.uses, heq] at huses ⊢
    obtain ⟨location, hlocation⟩ := hdirectories input List.mem_cons_self
    rw [ImageSet.uses_eq _ _ project houtput hinput hadaptive,
      hsep.filesIn_eq hchanged hend (huses _ List.mem_cons_self) hlocation]
    cases adaptive with
    | none => rfl
    | some directory =>
      obtain ⟨location', hlocation'⟩ := hdirectories directory (by simp)
      have hfiles := hsep.filesIn_eq hchanged hend (huses _ (by simp)) hlocation'
      simp only [Option.map_some, Option.getD_some, hfiles]

include hplain

/-- An entry is replayed with the uses that it would have had before the run. -/
theorem replays_entry {kind : EntryKind} {project : Project} {entry : Value}
    (huses : ∀ use ∈ kind.uses before after project entry, use ∈ uses)
    (halike : first.Alike second
      ((kind.uses before after project entry).flatMap (FileUse.functions after)))
    (world : World) :
    Replays second before after uses world fun _ => kind.generate project entry := by
  have hgrown : Grown world (kind.generate project entry) :=
    inherited_grown.entry (serves_grown _ _)
  refine ⟨hgrown, ?_⟩
  intro a world' h hstart hend hchanged
  have hend' := (hgrown a world' h (hstart.linkless hplain.linkless)).trans hend
  have heq := hsep.uses_eq hchanged hend' huses h
  rw [← heq] at huses halike
  have hP : Inherited (Replays second before after uses) := inherited_replays hplain.linkless
  have hcopies (source : String)
      (hlisted : Listed world.tree (kind.uses world.tree world.tree project entry) source) :
      Safe after uses source := by
    obtain ⟨directory, hlists, hsource⟩ := hlisted
    exact hsep.safe_of_listed hplain hchanged hstart hend' ⟨directory, huses _ hlists, hsource⟩
  have hreplays : Replays second before after uses world fun _ => kind.generate project entry :=
    hP.entry (serves_replays hplain.linkless hsep huses halike hcopies)
  exact hreplays.again a world' h hstart hend hchanged

/-- A run that was replayed so far uses, at each entry, what the whole run uses. -/
theorem replays_execute {run : Run} {directory : String} {start : World}
    (hstart : start.tree = before) (huses : uses = run.uses directory start after)
    (halike : first.Alike second (run.functions directory start after)) :
    Replays second before after uses start fun _ => run.execute directory := by
  subst hstart
  have hP : Inherited (Replays second start.tree after uses) := inherited_replays hplain.linkless
  apply hP.execute
  · intro path hpath world
    apply replays_readText
    apply hsep.safe_of_reads
    rw [huses]
    exact List.mem_append_left _ (List.mem_map_of_mem hpath)
  · rintro configs token world ⟨log, hload⟩
    apply hP.generateAll
    intro kind entry world' hreaches
    have hentry : ∀ use ∈ kind.uses start.tree after ⟨token, directory⟩ entry,
        use ∈ run.entryUses directory start after := by
      rw [Run.entryUses, hload]
      exact Config.uses_of_reaches hreaches _ _
    apply replays_entry hplain hsep
    · intro use huse
      rw [huses]
      exact List.mem_append_right _ (hentry use huse)
    · apply halike.mono
      intro name hname
      obtain ⟨use, huse, hcall⟩ := List.mem_flatMap.1 hname
      exact List.mem_flatMap.2 ⟨use, hentry use huse, hcall⟩

end

end

namespace Run

/-- A run whose writes are separate from its reads comes to the same tree when it is repeated, as
long as the functions that its template files call answer as they did: it succeeds again, and what
stands at each location is what the first run left there. -/
theorem execute_again {second first : Engine} {run : Run} {directory : String}
    {world world' : World} (hplain : world.tree.Plain)
    (h : outcome (@execute first run directory) world = (.ok (), world'))
    (hsep : Separate world'.tree (run.uses directory world world'.tree))
    (halike : first.Alike second (run.functions directory world world'.tree))
    (log : List LogLine) :
    ∃ world'', outcome (@execute second run directory) ⟨world'.tree, log⟩ = (.ok (), world'') ∧
      world''.tree.current = world'.tree.current ∧
      ∀ location, world''.tree.slice location = world'.tree.slice location := by
  have hreplays := replays_execute hplain hsep rfl rfl halike
  obtain ⟨hchanged, hagain⟩ := hreplays.again () world' h (Grows.refl _) (Grows.refl _)
    Changed.start
  obtain ⟨world'', hrun, hmirrors⟩ := hagain hchanged world'.tree log Mirrors.start
  exact ⟨world'', hrun, hmirrors.grows.current, hmirrors.finish⟩

/-- A configuration `c` with an output for a template `x`, and an empty token document. -/
def templatedTree (template : String) : FileTree :=
  ⟨[(["c"], .file ("\x7b\"files\":[\x7b\"inputs\":[],\"outputs\":[\x7b\"template\":\"x\"," ++
        "\"output\":\"o/a\"\x7d]\x7d]\x7d").toUTF8),
      (["t"], .file "\x7b\x7d".toUTF8), (["x"], .file template.toUTF8)], []⟩

/-- The fixture has no links and names its files as a program would. -/
theorem plain_templatedTree (template : String) : (templatedTree template).Plain := by
  constructor
  · intro entry hentry name hname
    have hnames : ∀ entry ∈ (templatedTree template).entries, ∀ name ∈ entry.1,
        name ∈ ["c", "t", "x"] := by
      simp [templatedTree]
    have hmem := hnames entry hentry name hname
    simp only [List.mem_cons, List.not_mem_nil, or_false] at hmem
    rcases hmem with rfl | rfl | rfl <;> exact ⟨by decide, by decide, by decide, by decide⟩
  · simp [templatedTree]

/-- An engine that knows the user and draws one and the same number. -/
@[reducible]
def drawing (number : Int) : Engine where
  filters := []
  tests := []
  functions :=
    [("get_env", fun _ => .ok (.string "ada")),
      ("get_random", fun _ => .ok (.number (.integer number)))]
  named := by simp only [List.map, List.nil_append]; decide

/-- What the run comes to under an engine that draws a number. -/
def templatedRun (number : Int) (tree : FileTree) : Except Failure Unit × World :=
  outcome (@execute (drawing number) ⟨["c"], "t"⟩ "") ⟨tree, []⟩

/-- A run of the fixture that succeeds gives the unit value, so only its world is of interest. -/
theorem exists_templatedRun {number : Int} {tree : FileTree}
    (h : (templatedRun number tree).1.isOk = true) :
    ∃ world', templatedRun number tree = (.ok (), world') :=
  exists_of_isOk h

/-- A template that asks who the user is. -/
def asking : String := "\x7b\x7b get_env(name='USER') \x7d\x7d"

/-- The text is the same again, whatever numbers could have been drawn. The template calls
`get_env`, on which the two engines agree, and not the function on which they differ. -/
theorem execute_again_asking : ∃ world',
    templatedRun 4 (templatedTree asking) = (.ok (), world') ∧
      ∃ world'', templatedRun 7 world'.tree = (.ok (), world'') ∧
        world''.tree.current = world'.tree.current ∧
        ∀ location, world''.tree.slice location = world'.tree.slice location := by
  have hok : (templatedRun 4 (templatedTree asking)).1.isOk = true := by decide +kernel
  have hseparate : Separate (templatedRun 4 (templatedTree asking)).2.tree
      (uses ⟨["c"], "t"⟩ "" ⟨templatedTree asking, []⟩
        (templatedRun 4 (templatedTree asking)).2.tree) := by
    decide +kernel
  have hfunctions : functions ⟨["c"], "t"⟩ "" ⟨templatedTree asking, []⟩
      (templatedRun 4 (templatedTree asking)).2.tree = ["get_env"] := by
    decide +kernel
  have halike : (drawing 4).Alike (drawing 7) ["get_env"] := ⟨rfl, rfl, fun _ hname => by
    rw [List.mem_singleton.1 hname]
    rfl⟩
  obtain ⟨world', h⟩ := exists_templatedRun hok
  rw [h] at hseparate hfunctions
  rw [← hfunctions] at halike
  exact ⟨world', h, execute_again (plain_templatedTree asking) h hseparate halike []⟩

/-- A template that draws a number. -/
def drawn : String := "\x7b\x7b get_random(end=9) \x7d\x7d"

/-- Another number gives another text, although nothing is read that was written. So the premise
about functions cannot be left out: all others hold of the two runs. -/
theorem execute_again_drawn : ∃ world' world'',
    (templatedTree drawn).Plain ∧
      templatedRun 4 (templatedTree drawn) = (.ok (), world') ∧
      Separate world'.tree (uses ⟨["c"], "t"⟩ "" ⟨templatedTree drawn, []⟩ world'.tree) ∧
      templatedRun 7 world'.tree = (.ok (), world'') ∧
      world'.tree.node? ["o", "a"] = some (.file "4".toUTF8) ∧
      world''.tree.node? ["o", "a"] = some (.file "7".toUTF8) := by
  have hok : (templatedRun 4 (templatedTree drawn)).1.isOk = true := by decide +kernel
  have hagain : (templatedRun 7 (templatedRun 4 (templatedTree drawn)).2.tree).1.isOk = true := by
    decide +kernel
  have hseparate : Separate (templatedRun 4 (templatedTree drawn)).2.tree
      (uses ⟨["c"], "t"⟩ "" ⟨templatedTree drawn, []⟩
        (templatedRun 4 (templatedTree drawn)).2.tree) := by
    decide +kernel
  have htexts : (templatedRun 4 (templatedTree drawn)).2.tree.node? ["o", "a"] =
        some (.file "4".toUTF8) ∧
      (templatedRun 7 (templatedRun 4 (templatedTree drawn)).2.tree).2.tree.node? ["o", "a"] =
        some (.file "7".toUTF8) := by
    decide +kernel
  obtain ⟨world', h⟩ := exists_templatedRun hok
  rw [h] at hagain hseparate htexts
  obtain ⟨world'', h'⟩ := exists_templatedRun hagain
  rw [h'] at htexts
  exact ⟨world', world'', plain_templatedTree drawn, h, hseparate, h', htexts⟩

end Run

end DesignTokens

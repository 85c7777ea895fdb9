import DesignTokens.Proofs.Files.Frame
import DesignTokens.Proofs.Generate.Growth

/-!
# The footprint of a run

The paths that a run may write are those of the entries that it reaches (`Run.Writes`): the
manifests of catalogs and of their sets, the copies of images, and the outputs of templates. In a
tree without links a run touches nothing else, whether it succeeds or fails
(`Run.touches_execute`).
-/

set_option autoImplicit false

namespace DesignTokens

open DesignTokens.Action DesignTokens.FileTree

section
variable [Template.Engine]

/-- Staying among paths is inherited. -/
theorem inherited_staysIn (allowed : String → Prop) : Inherited (Single (StaysIn allowed)) :=
  .of_preorder (R := fun old new => old.Linkless → Touches allowed old new)
    (fun tree _ => Touches.refl tree) Touches.trans_of_linkless

/-- Steps that only write admitted paths stay among them. This serves any section, whatever it
renders. -/
theorem serves_admitted {allowed : String → Prop} {tree : FileTree} {uses : List FileUse}
    (h : ∀ path, .writes path ∈ uses → Admits allowed path) :
    Serves (Single (StaysIn allowed)) tree uses where
  renders _ := (inherited_staysIn allowed).rendered (fun _ _ => staysIn_look _ _) _
  lists _ _ := (staysIn_look _ _).bind fun _ _ _ => StaysIn.of_same rfl
  writes hpath content _ := staysIn_writeText (h _ hpath) content
  copies _ hdestination _ := staysIn_replaceFile (h _ hdestination) _

/-- Steps stay among the paths that they write. -/
theorem serves_staysIn {allowed : String → Prop} {tree : FileTree} {uses : List FileUse}
    (h : ∀ path, .writes path ∈ uses → allowed path) :
    Serves (Single (StaysIn allowed)) tree uses :=
  serves_admitted fun path hpath => .of_allowed (h path hpath)

end

namespace Run

/-- A run that starts in a world reaches an entry that writes the path. What the entry writes is
named by the token document and by the files that its directories hold when it is generated. -/
def Writes [Template.Engine] (run : Run) (directory : String) (world : World)
    (path : String) : Prop :=
  ∃ configs token log kind entry mid,
    outcome (run.load directory) world = (.ok (configs, token), ⟨world.tree, log⟩) ∧
    Config.Reaches ⟨token, directory⟩ configs world.tree kind entry mid ∧
    .writes path ∈ kind.uses mid mid ⟨token, directory⟩ entry

/-- Whether a run succeeds or fails, it touches the paths only that its entries write. The documents
are loaded without a change, and from then on staying in the frame is inherited from the single
steps, up to where the run stops. -/
theorem touches_execute [Template.Engine] (run : Run) (directory : String) {world : World}
    (hlinkless : world.tree.Linkless) :
    Touches (run.Writes directory world) world.tree
      (outcome (run.execute directory) world).2.tree := by
  have hP := inherited_staysIn (run.Writes directory world)
  refine hP.execute ?_ ?_ hlinkless
  · exact fun _ _ _ => staysIn_look _ _
  · rintro configs token start ⟨log, hload⟩
    -- the documents are loaded from the tree that the run starts with
    have htree : start.tree = world.tree := by
      rw [← run.tree_of_load directory world, hload]
    rw [htree] at hload
    apply hP.generateAll
    intro kind entry mid hreaches
    apply hP.entry
    apply serves_staysIn
    intro path hpath
    exact ⟨configs, token, log, kind, entry, mid.tree, hload, htree ▸ hreaches, hpath⟩

/-- A tree with a configuration that renders the file `x`, whose text names an unknown variable. -/
def unknownVariableTree : FileTree :=
  ⟨[(["c"], .file
        "files: [\x7binputs: [], outputs: [\x7btemplate: x, output: a\x7d]\x7d]".toUTF8),
      (["t"], .file "\x7b\x7d".toUTF8),
      (["x"], .file "\x7b\x7ba\x7d\x7d".toUTF8)], []⟩

open scoped Template.Engine in
/-- The run that fails at an unknown variable touches no more than its output. -/
theorem touches_execute_unknownVariable :
    unknownVariableTree.Linkless ∧
      Touches ((⟨["c"], "t"⟩ : Run).Writes "" ⟨unknownVariableTree, []⟩) unknownVariableTree
        (outcome (execute ⟨["c"], "t"⟩ "") ⟨unknownVariableTree, []⟩).2.tree := by
  have hlinkless : unknownVariableTree.Linkless :=
    linkless_of_entries (by simp [unknownVariableTree])
  exact ⟨hlinkless, touches_execute ⟨["c"], "t"⟩ "" hlinkless⟩

end Run

end DesignTokens

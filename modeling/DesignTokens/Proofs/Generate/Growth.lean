import DesignTokens.Proofs.Generate.Inherited

/-!
# Runs take nothing away

In a tree without links each successful action makes directories and writes files and does nothing
else. A copy removes the file at its destination first, but it puts another file there before it
ends, so that the tree has grown after the copy. The property is inherited (`inherited_grown`), and
all steps of generators have it (`serves_grown`). What only reads leaves the tree as it is
(`Looks`), as the loading of the documents does (`Run.tree_of_load`).
-/

set_option autoImplicit false

namespace DesignTokens

open DesignTokens.Action DesignTokens.FileTree

/-! ### Growth -/

/-- If the action succeeds in a tree without links, the tree grows. -/
def Grown {α : Type} (world : World) (action : Action α) : Prop :=
  ∀ a world', outcome action world = (.ok a, world') → world.tree.Linkless →
    Grows world.tree world'.tree

/-- Growth of a tree that is left alone. -/
theorem Grown.of_same {α : Type} {world : World} {action : Action α}
    (h : ∀ a world', outcome action world = (.ok a, world') → world'.tree = world.tree) :
    Grown world action := by
  intro a world' hrun _
  rw [h a world' hrun]
  exact Grows.refl _

section
variable [Template.Engine]

/-- Growth is inherited. A tree that has grown out of one without links has none either, so the
second of two steps starts from a tree of the same kind as the first. -/
theorem inherited_grown : Inherited (Single Grown) where
  pure a world := Grown.of_same fun a' world' h => by cases h; rfl
  throw failure world := Grown.of_same fun a world' h => by cases h
  log level message world := Grown.of_same fun a world' h => by cases h; rfl
  require _ failure world := Grown.of_same fun a world' h => by rw [(outcome_require_ok_iff.1 h).2]
  bind := by
    intro α β action next world haction hnext b world'' h hlinkless
    obtain ⟨a, world', hfirst, hsecond⟩ := outcome_bind_ok_iff.1 h
    have hgrows := haction a world' hfirst hlinkless
    -- the second step starts in a tree without links as well
    exact hgrows.trans (hnext a world' hfirst b world'' hsecond (hgrows.linkless hlinkless))
  within := by
    intro α context action world haction a world' h
    exact haction a world' (outcome_within_ok_iff.1 h)

end

/-- A read leaves the tree, so it loses nothing. -/
theorem grown_readText (path : String) (world : World) : Grown world (readText path) :=
  Grown.of_same fun a world' h => by rw [(outcome_look_ok_iff.1 h).2]

/-- Neither does a listing. -/
theorem grown_listFiles (directory : String) (world : World) :
    Grown world (listFiles directory) :=
  Grown.of_same fun a world' h => by rw [(ImageSet.filesIn_of_listFiles h).2.2]

/-- A write replaces the content of a file at most. -/
theorem grown_writeText (path content : String) (world : World) :
    Grown world (writeText path content) := by
  intro a world' h _
  obtain ⟨inside, name, hwritten⟩ := writeText_spec h
  exact hwritten.grows

/-- A copy that succeeds has put a file where the one it removed was. It must be known that this was
no link. -/
theorem grown_replaceFile (source destination : String) (world : World) :
    Grown world (replaceFile source destination) := by
  intro a world' h hlinkless
  obtain ⟨inside, name, content, hwritten, -⟩ := replaceFile_spec (hlinkless.linksStay _) h
  exact hwritten.grows

/-- All steps of generators take nothing away. A copy is the only one that needs a reason, as it
removes a file before it writes another. -/
theorem serves_grown [Template.Engine] (tree : FileTree) (uses : List FileUse) :
    Serves (Single Grown) tree uses where
  renders _ := inherited_grown.rendered grown_readText _
  lists _ := grown_listFiles _
  writes _ := grown_writeText _
  copies _ _ := grown_replaceFile _ _

/-! ### Looking -/

/-- The action leaves the tree as it is. -/
def Looks {α : Type} (world : World) (action : Action α) : Prop :=
  (outcome action world).2.tree = world.tree

/-- Leaving the tree alone is inherited. -/
theorem inherited_looks [Template.Engine] : Inherited (Single Looks) :=
  .of_preorder (R := fun old new => new = old) (fun _ => rfl) fun hfirst hsecond =>
    hsecond.trans hfirst

/-- A read is a look at the tree. -/
theorem looks_readText (path : String) (world : World) : Looks world (Action.readText path) := by
  rw [Looks, Action.readText, outcome_look]
  cases world.tree.readText path <;> rfl

-- loading renders nothing, so any engine will do in the proof
open scoped Template.Engine in
/-- What a run loads it loads from a tree that it leaves alone. The property is inherited from the
reads of single documents. -/
theorem Run.tree_of_load (run : Run) (directory : String) (world : World) :
    (outcome (run.load directory) world).2.tree = world.tree :=
  inherited_looks.load fun _ _ world' => looks_readText _ world'

end DesignTokens

import DesignTokens.Proofs.Generate.InTurn

/-!
# Actions that only read

What only reads has a result in each tree and leaves the tree alone, whatever is in the log
(`Gives`). Such actions are put together to longer ones, so that their results can be computed from
the tree. What follows them starts from the same tree (`Gives.effect_bind`).
-/

set_option autoImplicit false

namespace DesignTokens.Action

/-- In a tree the action has the result and leaves the tree as it is. -/
def Gives {α : Type} (action : Action α) (tree : FileTree) (result : Except Failure α) : Prop :=
  ∀ log, ∃ log', outcome action ⟨tree, log⟩ = (result, ⟨tree, log'⟩)

section
variable {α β : Type} {tree : FileTree}

/-- A value that is there is given without a look at the tree. -/
theorem gives_pure (a : α) : Gives (pure a) tree (.ok a) :=
  fun log => ⟨log, rfl⟩

/-- A result that is known is given as it is, with its problem as the failure. -/
theorem gives_ofExcept (result : Except Problem α) (tree : FileTree) :
    Gives (ofExcept result) tree (result.mapError .ofProblem) := by
  intro log
  cases result <;> exact ⟨log, rfl⟩

/-- A text is given as the tree holds it, and the fault of a read carries the path as its
context. -/
theorem gives_readText (path : String) (tree : FileTree) :
    Gives (readText path) tree
      ((tree.readText path).mapError (.ofFault ("Failed to read file: " ++ path))) := by
  intro log
  refine ⟨log, ?_⟩
  rw [readText, outcome_look]
  cases tree.readText path <;> rfl

/-- A question about the tree gives nothing, or the failure that was named for it. -/
theorem gives_require (question : FileTree → Bool) (failure : Failure) (tree : FileTree) :
    Gives (require question failure) tree
      (if question tree then .ok () else .error failure) := by
  intro log
  refine ⟨log, ?_⟩
  rw [require, outcome_bind, outcome_ask]
  cases question tree <;> rfl

/-- What is given first can be used by what is given next, on the same tree. -/
theorem Gives.bind {action : Action α} {next : α → Action β} {a : α} {result : Except Failure β}
    (haction : Gives action tree (.ok a)) (hnext : Gives (next a) tree result) :
    Gives (action >>= next) tree result := by
  intro log
  obtain ⟨between, hfirst⟩ := haction log
  obtain ⟨log', hsecond⟩ := hnext between
  exact ⟨log', by rw [outcome_bind, hfirst]; exact hsecond⟩

/-- What comes behind a failure does not count. -/
theorem Gives.bind_error {action : Action α} {failure : Failure}
    (haction : Gives action tree (.error failure)) (next : α → Action β) :
    Gives (action >>= next) tree (.error failure) := by
  intro log
  obtain ⟨log', hfirst⟩ := haction log
  exact ⟨log', by rw [outcome_bind, hfirst]⟩

/-- Neither does the log. -/
theorem Gives.log_bind {level : LogLevel} {message : String} {next : Unit → Action β}
    {result : Except Failure β} (hnext : Gives (next ()) tree result) :
    Gives (log level message >>= next) tree result :=
  Gives.bind (fun _ => ⟨_, rfl⟩) hnext

/-- What only reads may be followed by more that only reads. -/
theorem Gives.then {action : Action α} {next : α → Action β} {result : Except Failure α}
    {found : α → Except Failure β} (h : Gives action tree result)
    (hnext : ∀ a, Gives (next a) tree (found a)) :
    Gives (action >>= next) tree (result >>= found) := by
  cases result with
  | error failure => exact h.bind_error next
  | ok a => exact h.bind (hnext a)

/-- The same for steps that fail with problems only. -/
theorem Gives.then_ofProblem {action : Action α} {next : α → Action β}
    {result : Except Problem α} {found : α → Except Problem β}
    (h : Gives action tree (result.mapError .ofProblem))
    (hnext : ∀ a, Gives (next a) tree ((found a).mapError .ofProblem)) :
    Gives (action >>= next) tree ((result >>= found).mapError .ofProblem) := by
  cases result with
  | error problem => exact h.bind_error next
  | ok a => exact h.bind (hnext a)

/-- All rounds of a loop succeed if each of them does in the tree. -/
theorem gives_mapM {body : α → Action β} {items : List α} {found : List β}
    (h : List.Forall₂ (fun item b => Gives (body item) tree (.ok b)) items found) :
    Gives (items.mapM body) tree (.ok found) := by
  induction h with
  | nil => exact gives_pure []
  | cons hitem _ ih =>
    rw [List.mapM_cons]
    exact hitem.bind (ih.bind (gives_pure _))

/-- A loop ends with the first round that fails. -/
theorem gives_mapM_error {body : α → Action β} {before after : List α} {item : α}
    {failure : Failure} (hbefore : ∀ other ∈ before, ∃ b, Gives (body other) tree (.ok b))
    (hitem : Gives (body item) tree (.error failure)) :
    Gives ((before ++ item :: after).mapM body) tree (.error failure) := by
  induction before with
  | nil =>
    rw [List.nil_append, List.mapM_cons]
    exact hitem.bind_error _
  | cons first before ih =>
    obtain ⟨b, hfirst⟩ := hbefore first List.mem_cons_self
    have hrest := ih fun other hmem => hbefore other (List.mem_cons_of_mem _ hmem)
    rw [List.cons_append, List.mapM_cons]
    exact hfirst.bind (hrest.bind_error _)

/-- A step for each item gives what the plain function gives for each of them. -/
theorem gives_mapM_ofProblem {body : α → Action β} {step : α → Except Problem β}
    (h : ∀ item, Gives (body item) tree ((step item).mapError .ofProblem)) (items : List α) :
    Gives (items.mapM body) tree ((items.mapM step).mapError .ofProblem) := by
  induction items with
  | nil => exact gives_pure []
  | cons item items ih =>
    rw [List.mapM_cons, List.mapM_cons]
    exact (h item).then_ofProblem fun _ => ih.then_ofProblem fun _ => gives_pure _

/-! ### Reading before writing -/

/-- What follows the result of reading a tree; a failure leaves the tree. -/
def resume (result : Except Failure α) (tree : FileTree)
    (next : α → Except Failure Unit × FileTree) : Except Failure Unit × FileTree :=
  match result with
  | .ok a => next a
  | .error failure => (.error failure, tree)

/-- A reading in front of an action changes the tree only through the action, and not at all if it
fails. -/
theorem Gives.effect_bind {action : Action α} {result : Except Failure α}
    (h : Gives action tree result) {next : α → Action Unit}
    (hnext : ∀ a world, IgnoresLog world (next a)) :
    effect (action >>= next) tree = resume result tree fun a => effect (next a) tree := by
  obtain ⟨log, hrun⟩ := h []
  rw [effect, outcome_bind, hrun]
  cases result with
  | error failure => rfl
  | ok a => exact hnext a ⟨tree, []⟩ log

end

end DesignTokens.Action

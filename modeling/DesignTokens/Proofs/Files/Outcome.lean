import DesignTokens.Files.Action

/-!
# Outcomes of actions

An action is a state transformer over worlds that may fail. `Action.outcome` runs it, and there is
one equation for each way to build an action, so that no proof about a generator opens the monad.
Two relations come from the equations. `outcome_bind_ok_iff` takes a successful action apart into
the outcomes of its steps. `FailsOnly P action` says that whatever the world is, each failure of
the action satisfies `P`; it is closed under every way to build an action.
-/

set_option autoImplicit false

namespace DesignTokens.Action

variable {α β : Type}

/-- What an action comes to in a world: its result and the world behind it. -/
def outcome (action : Action α) (world : World) : Except Failure α × World :=
  action.run.run world

/-! ### Equations -/

/-- A value leaves the world as it is. -/
@[simp]
theorem outcome_pure (a : α) (world : World) :
    outcome (pure a) world = (.ok a, world) := rfl

/-- A failure leaves the world as it is. -/
@[simp]
theorem outcome_throw (failure : Failure) (world : World) :
    outcome (throw failure : Action α) world = (.error failure, world) := rfl

/-- The world can be read. -/
@[simp]
theorem outcome_get (world : World) : outcome (get : Action World) world = (.ok world, world) :=
  rfl

/-- The world can be replaced by what is made of it. -/
@[simp]
theorem outcome_modify (change : World → World) (world : World) :
    outcome (modify change) world = (.ok (), change world) := rfl

/-- The second step starts in the world that the first one leaves. -/
theorem outcome_bind (action : Action α) (next : α → Action β) (world : World) :
    outcome (action >>= next) world =
      match outcome action world with
      | (.ok a, world') => outcome (next a) world'
      | (.error failure, world') => (.error failure, world') := by
  have hrun : outcome (action >>= next) world =
      (match action.run.run world with
        | (.ok a, world') => (next a).run.run world'
        | (.error failure, world') => (.error failure, world')) := by
    show (match action.run.run world with
      | (a, s) => (ExceptT.bindCont next a).run s) = _
    rcases action.run.run world with ⟨_ | a, world'⟩ <;> rfl
  exact hrun

/-- A context is added to a failure and to nothing else. -/
theorem outcome_within (context : String) (action : Action α) (world : World) :
    outcome (within context action) world =
      match outcome action world with
      | (.ok a, world') => (.ok a, world')
      | (.error failure, world') => (.error (failure.addContext context), world') := by
  unfold outcome within StateT.run ExceptT.run
  simp only [tryCatch, tryCatchThe, MonadExceptOf.tryCatch, ExceptT.tryCatch, ExceptT.mk, bind,
    StateT.bind]
  rcases action world with ⟨_ | a, world'⟩ <;> rfl

/-- A context has no effect on the world. -/
@[simp]
theorem outcome_within_snd (context : String) (action : Action α) (world : World) :
    (outcome (within context action) world).2 = (outcome action world).2 := by
  rw [outcome_within]
  rcases outcome action world with ⟨_ | a, world'⟩ <;> rfl

/-- A line of the log is added at the end. -/
@[simp]
theorem outcome_log (level : LogLevel) (message : String) (world : World) :
    outcome (log level message) world =
      (.ok (), { world with log := world.log ++ [⟨level, message⟩] }) := rfl

/-- A computation that succeeded gives its value and leaves the world as it is. -/
@[simp]
theorem outcome_ofExcept_ok (a : α) (world : World) :
    outcome (ofExcept (.ok a)) world = (.ok a, world) := rfl

/-- A computation that failed gives its problem as a failure without contexts. -/
@[simp]
theorem outcome_ofExcept_error (problem : Problem) (world : World) :
    outcome (ofExcept (.error problem) : Action α) world =
      (.error (.ofProblem problem), world) := rfl

/-- A question about the files is answered from the tree. -/
@[simp]
theorem outcome_ask (question : FileTree → α) (world : World) :
    outcome (ask question) world = (.ok (question world.tree), world) := rfl

/-- A look at the files leaves the world alone. It answers its question about the tree, or
fails with the fault under a context. -/
theorem outcome_look (context : String) (question : FileTree → Except FileFault α)
    (world : World) :
    outcome (look context question) world =
      match question world.tree with
      | .ok a => (.ok a, world)
      | .error fault => (.error (.ofFault context fault), world) := by
  have hlook : look context question = (do
      match question (← get).tree with
      | .ok a => return a
      | .error fault => throw (.ofFault context fault)) := rfl
  rw [hlook, outcome_bind]
  show outcome (match question world.tree with
    | .ok a => pure a
    | .error fault => throw (.ofFault context fault)) world = _
  cases question world.tree <;> rfl

/-- A change replaces the tree, unless it fails. -/
theorem outcome_change (context : String) (step : FileTree → Except FileFault FileTree)
    (world : World) :
    outcome (change context step) world =
      match step world.tree with
      | .ok tree => (.ok (), { world with tree })
      | .error fault => (.error (.ofFault context fault), world) := by
  rw [change, outcome_bind, outcome_look]
  cases step world.tree <;> rfl

/-- What is there already must be a directory; what is missing is made, as far as it can be. -/
theorem outcome_ensureDirectory (path : String) (world : World) :
    outcome (ensureDirectory path) world =
      if world.tree.present path then
        if world.tree.isDirectory path then (.ok (), world)
        else (.error (.ofMessage ("Path exists but is not a directory: " ++ path)), world)
      else
        match world.tree.makeDirectories path (path.length + 1) with
        | (tree, .ok ()) => (.ok (), { world with tree })
        | (tree, .error fault) =>
          (.error (.ofFault ("Failed to create directory: " ++ path) fault),
            { world with tree }) := by
  rw [ensureDirectory, outcome_bind, outcome_ask]
  cases hpresent : world.tree.present path with
  | true =>
    cases hdirectory : world.tree.isDirectory path <;>
      simp [outcome_bind, hdirectory]
  | false =>
    simp only [Bool.not_false, if_true, Bool.false_eq_true, if_false]
    rw [outcome_bind, outcome_get]
    rcases hmade : world.tree.makeDirectories path (path.length + 1) with ⟨tree, fault | ⟨⟩⟩ <;>
      simp [outcome_bind, hmade]

/-- A loop is its first round and then the others. -/
theorem forM_cons (item : α) (items : List α) (body : α → Action Unit) :
    (item :: items).forM body = (body item >>= fun _ => items.forM body) := rfl

/-! ### Successful actions -/

/-- An action of two steps succeeds if both do, the second one from what the first one has come to.
Results about successful actions take them apart with this and never look into the monad. -/
theorem outcome_bind_ok_iff {action : Action α} {next : α → Action β} {world world'' : World}
    {b : β} :
    outcome (action >>= next) world = (.ok b, world'') ↔
      ∃ a world', outcome action world = (.ok a, world') ∧
        outcome (next a) world' = (.ok b, world'') := by
  rw [outcome_bind]
  rcases outcome action world with ⟨_ | a, world'⟩
  · simp
  · constructor
    · exact fun h => ⟨a, world', rfl, h⟩
    · rintro ⟨a', between, heq, h⟩
      cases heq
      exact h

/-- A context does nothing to a success. -/
theorem outcome_within_ok_iff {context : String} {action : Action α} {world world' : World}
    {a : α} :
    outcome (within context action) world = (.ok a, world') ↔
      outcome action world = (.ok a, world') := by
  rw [outcome_within]
  rcases outcome action world with ⟨_ | a, world'⟩ <;> simp

/-- An action that stands for a computation succeeds exactly if the computation did. -/
theorem outcome_ofExcept_ok_iff {result : Except Problem α} {world world' : World} {a : α} :
    outcome (ofExcept result) world = (.ok a, world') ↔ result = .ok a ∧ world' = world := by
  cases result with
  | error problem => simp
  | ok found =>
    simp only [outcome_ofExcept_ok, Prod.mk.injEq, Except.ok.injEq]
    exact ⟨fun h => ⟨h.1, h.2.symm⟩, fun h => ⟨h.1, h.2.symm⟩⟩

/-- A loop succeeds if its first round does and the other rounds do after it. -/
theorem outcome_forM_cons_ok_iff {item : α} {items : List α} {body : α → Action Unit}
    {world world'' : World} :
    outcome ((item :: items).forM body) world = (.ok (), world'') ↔
      ∃ world', outcome (body item) world = (.ok (), world') ∧
        outcome (items.forM body) world' = (.ok (), world'') := by
  rw [forM_cons, outcome_bind_ok_iff]
  exact ⟨fun ⟨_, world', h⟩ => ⟨world', h⟩, fun ⟨world', h⟩ => ⟨(), world', h⟩⟩

/-- A loop over two lists succeeds exactly if the loop over the first list does, and the loop over
the second one in the world that it leaves. -/
theorem outcome_forM_append_ok_iff {items later : List α} {body : α → Action Unit}
    {world world'' : World} :
    outcome ((items ++ later).forM body) world = (.ok (), world'') ↔
      ∃ world', outcome (items.forM body) world = (.ok (), world') ∧
        outcome (later.forM body) world' = (.ok (), world'') := by
  induction items generalizing world with
  | nil =>
    constructor
    · exact fun h => ⟨world, rfl, h⟩
    · rintro ⟨world', hnone, h⟩
      cases hnone
      exact h
  | cons item items ih =>
    rw [List.cons_append]
    simp only [outcome_forM_cons_ok_iff, ih]
    constructor
    · rintro ⟨between, hitem, world', hitems, hlater⟩
      exact ⟨world', ⟨between, hitem, hitems⟩, hlater⟩
    · rintro ⟨world', ⟨between, hitem, hitems⟩, hlater⟩
      exact ⟨between, hitem, world', hitems, hlater⟩

/-- An action without a failure leaves a world behind. -/
theorem exists_of_isOk {action : Action Unit} {world : World}
    (h : (outcome action world).1.isOk = true) :
    ∃ world', outcome action world = (.ok (), world') := by
  rcases hrun : outcome action world with ⟨failure | ⟨⟩, world'⟩
  · rw [hrun] at h
    cases h
  · exact ⟨world', rfl⟩

/-- What holds of the results of each round holds of all results. Rounds may change the world, so
the premise is about any world that one starts in. -/
theorem forall_mem_of_mapM_ok {Q : β → Prop} {items : List α} {body : α → Action β}
    (hbody : ∀ item world b world', outcome (body item) world = (.ok b, world') → Q b)
    {world world' : World} {found : List β}
    (h : outcome (items.mapM body) world = (.ok found, world')) : ∀ b ∈ found, Q b := by
  induction items generalizing world world' found with
  | nil =>
    simp only [List.mapM_nil, outcome_pure, Prod.mk.injEq, Except.ok.injEq] at h
    simp [← h.1]
  | cons item items ih =>
    rw [List.mapM_cons, outcome_bind_ok_iff] at h
    obtain ⟨b, between, hb, h⟩ := h
    rw [outcome_bind_ok_iff] at h
    obtain ⟨bs, after, hbs, h⟩ := h
    simp only [outcome_pure, Prod.mk.injEq, Except.ok.injEq] at h
    rw [← h.1]
    intro other hmem
    rcases List.mem_cons.1 hmem with rfl | hmem
    · exact hbody item world other between hb
    · exact ih hbs other hmem

/-! ### Trees behind actions -/

/-- A transitive relation between the tree in front of a step and the one behind it goes along a
sequence. A step that fails ends the sequence with the tree that it leaves. -/
theorem tree_bind {R : FileTree → FileTree → Prop}
    (htrans : ∀ {first second third}, R first second → R second third → R first third)
    {action : Action α} {next : α → Action β} {world : World}
    (haction : R world.tree (outcome action world).2.tree)
    (hnext : ∀ a world', outcome action world = (.ok a, world') →
      R world'.tree (outcome (next a) world').2.tree) :
    R world.tree (outcome (action >>= next) world).2.tree := by
  rw [outcome_bind]
  rcases hrun : outcome action world with ⟨failure | a, world'⟩
  · rwa [hrun] at haction
  · rw [hrun] at haction
    exact htrans haction (hnext a world' hrun)

/-! ### Failing actions -/

/-- Each failure of the action, in any world, satisfies the predicate. -/
def FailsOnly (P : Failure → Prop) (action : Action α) : Prop :=
  ∀ world failure world', outcome action world = (.error failure, world') → P failure

section
variable {P : Failure → Prop}

/-- A value is no failure. -/
theorem failsOnly_pure (a : α) : FailsOnly P (pure a : Action α) := by
  intro world failure world' h
  simp at h

/-- A failure that is thrown has the property if it has it. -/
theorem failsOnly_throw {failure : Failure} (h : P failure) :
    FailsOnly P (throw failure : Action α) := by
  intro world failure' world' hfails
  simp only [outcome_throw, Prod.mk.injEq, Except.error.injEq] at hfails
  exact hfails.1 ▸ h

/-- What comes after a step has to be considered only for results that the step can have. -/
theorem failsOnly_bind_of_ok {action : Action α} {next : α → Action β}
    (haction : FailsOnly P action)
    (hnext : ∀ a world world', outcome action world = (.ok a, world') → FailsOnly P (next a)) :
    FailsOnly P (action >>= next) := by
  intro world failure world' h
  rw [outcome_bind] at h
  rcases hrun : outcome action world with ⟨failure' | a, between⟩
  · rw [hrun] at h
    simp only [Prod.mk.injEq, Except.error.injEq] at h
    exact h.1 ▸ haction world failure' between hrun
  · rw [hrun] at h
    exact hnext a world between hrun between failure world' h

/-- A sequence fails only as one of its steps does. -/
theorem failsOnly_bind {action : Action α} {next : α → Action β} (haction : FailsOnly P action)
    (hnext : ∀ a, FailsOnly P (next a)) : FailsOnly P (action >>= next) :=
  failsOnly_bind_of_ok haction fun a _ _ _ => hnext a

/-- In a context, the failures are those of the action with the context around them. -/
theorem failsOnly_within {context : String} {action : Action α}
    (h : FailsOnly (fun failure => P (failure.addContext context)) action) :
    FailsOnly P (within context action) := by
  intro world failure world' hfails
  rw [outcome_within] at hfails
  rcases hrun : outcome action world with ⟨failure' | a, between⟩
  · rw [hrun] at hfails
    simp only [Prod.mk.injEq, Except.error.injEq] at hfails
    exact hfails.1 ▸ h world failure' between hrun
  · simp [hrun] at hfails

/-- A property that follows from another one holds where that one does. -/
theorem failsOnly_mono {Q : Failure → Prop} {action : Action α} (h : FailsOnly Q action)
    (himp : ∀ failure, Q failure → P failure) : FailsOnly P action :=
  fun world failure world' hfails => himp failure (h world failure world' hfails)

/-- A line of the log never fails. -/
theorem failsOnly_log (level : LogLevel) (message : String) : FailsOnly P (log level message) := by
  intro world failure world' h
  simp at h

/-- Neither does a question about the files. -/
theorem failsOnly_ask (question : FileTree → α) : FailsOnly P (ask question) := by
  intro world failure world' h
  simp at h

/-- The result of a computation fails with the problem of the computation. -/
theorem failsOnly_ofExcept {result : Except Problem α}
    (h : ∀ problem, result = .error problem → P (.ofProblem problem)) :
    FailsOnly P (ofExcept result) := by
  cases result with
  | ok a => exact failsOnly_pure a
  | error problem => exact failsOnly_throw (h problem rfl)

/-- A look at the files fails with a fault under its context. -/
theorem failsOnly_look {context : String} {question : FileTree → Except FileFault α}
    (h : ∀ fault, P (.ofFault context fault)) : FailsOnly P (look context question) := by
  intro world failure world' hfails
  rw [outcome_look] at hfails
  cases hanswer : question world.tree with
  | ok a => simp [hanswer] at hfails
  | error fault =>
    simp only [hanswer, Prod.mk.injEq, Except.error.injEq] at hfails
    exact hfails.1 ▸ h fault

/-- A change of the files fails with a fault under its context as well. -/
theorem failsOnly_change {context : String} {step : FileTree → Except FileFault FileTree}
    (h : ∀ fault, P (.ofFault context fault)) : FailsOnly P (change context step) := by
  intro world failure world' hfails
  rw [outcome_change] at hfails
  cases hstep : step world.tree with
  | ok tree => simp [hstep] at hfails
  | error fault =>
    simp only [hstep, Prod.mk.injEq, Except.error.injEq] at hfails
    exact hfails.1 ▸ h fault

/-- A loop fails only as the round over one of its items does. -/
theorem failsOnly_forM {items : List α} {body : α → Action Unit}
    (h : ∀ item ∈ items, FailsOnly P (body item)) : FailsOnly P (items.forM body) := by
  induction items with
  | nil => exact failsOnly_pure ()
  | cons item items ih =>
    rw [forM_cons]
    apply failsOnly_bind (h item (by simp))
    intro _
    exact ih fun item' hmem => h item' (by simp [hmem])

/-- So does a loop that collects values. -/
theorem failsOnly_mapM {items : List α} {body : α → Action β}
    (h : ∀ item ∈ items, FailsOnly P (body item)) : FailsOnly P (items.mapM body) := by
  induction items with
  | nil => exact failsOnly_pure []
  | cons item items ih =>
    rw [List.mapM_cons]
    apply failsOnly_bind (h item (by simp))
    intro b
    apply failsOnly_bind (ih fun item' hmem => h item' (by simp [hmem]))
    intro bs
    exact failsOnly_pure _

end

/-! ### Failing work on files -/

section
variable {P : Failure → Prop} (hfault : ∀ context fault, P (.ofFault context fault))
  (hmessage : ∀ message, P (.ofMessage message))
include hfault hmessage

/-- Making a directory fails over a fault of the files, or over a path that leads to something
else. -/
theorem failsOnly_ensureDirectory (path : String) : FailsOnly P (ensureDirectory path) := by
  intro world failure world' h
  rw [outcome_ensureDirectory] at h
  split at h
  · split at h
    · cases h
    · cases h
      exact hmessage _
  · split at h
    · cases h
    · cases h
      exact hfault _ _

/-- Making the directory that a path lies in fails in the same ways. -/
theorem failsOnly_ensureParent (path : String) : FailsOnly P (ensureParent path) := by
  unfold ensureParent
  cases Path.parent? path with
  | none => exact failsOnly_pure ()
  | some parent => exact failsOnly_ensureDirectory hfault hmessage parent

/-- Writing fails over the file system or with a plain message. -/
theorem failsOnly_writeText (path content : String) : FailsOnly P (writeText path content) :=
  failsOnly_bind (failsOnly_ensureParent hfault hmessage path) fun _ =>
    failsOnly_change fun _ => hfault _ _

/-- A copy fails over a removal, over the directory that it makes, or over the copying itself. -/
theorem failsOnly_replaceFile (source destination : String) :
    FailsOnly P (replaceFile source destination) := by
  unfold replaceFile
  refine failsOnly_bind (failsOnly_ask _) fun present => ?_
  have hcopy : FailsOnly P (do
      ensureParent destination
      change ("Failed to copy file from " ++ source ++ " to " ++ destination)
        (·.copy source destination)) :=
    failsOnly_bind (failsOnly_ensureParent hfault hmessage destination) fun _ =>
      failsOnly_change fun _ => hfault _ _
  cases present with
  | true => exact failsOnly_bind (failsOnly_change fun _ => hfault _ _) fun _ => hcopy
  | false => exact hcopy

end

end DesignTokens.Action

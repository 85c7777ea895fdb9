import DesignTokens.Proofs.Config.Key
import DesignTokens.Proofs.Files.Outcome
import DesignTokens.Proofs.Token.Groups

/-!
# Which template a failure blames

A failure to read or render a template names the template. `Failure.template?` is that name, and it
is `none` for a failure of any other kind. A computation is `Silent` if none of its problems blames
a template, and an action `Blames allowed` if its failures blame allowed templates only. Work on
files blames none (`Blames.writeText`, `Blames.replaceFile`, `Blames.listFiles`), and neither does
reading a configuration entry (`silent_required`).
-/

set_option autoImplicit false

namespace DesignTokens

/-- The template that a problem blames. -/
def Problem.template? : Problem → Option String
  | .templateRender template _ => some template
  | _ => none

/-- The template that a failure blames. -/
def Failure.template? (failure : Failure) : Option String :=
  match failure.cause with
  | .known problem => problem.template?
  | _ => none

/-- The template that a result blames. -/
def blamed? : Except Failure Unit → Option String
  | .ok _ => none
  | .error failure => failure.template?

/-- A context does not change which template is to blame. -/
@[simp]
theorem Failure.template?_addContext (failure : Failure) (context : String) :
    (failure.addContext context).template? = failure.template? := rfl

/-- A problem that becomes a failure blames what it blamed before. -/
@[simp]
theorem Failure.template?_ofProblem (problem : Problem) :
    (Failure.ofProblem problem).template? = problem.template? := rfl

/-- A plain message blames no template. -/
@[simp]
theorem Failure.template?_ofMessage (message : String) :
    (Failure.ofMessage message).template? = none := rfl

/-- A fault of the files blames no template, whatever it was that could not be done. -/
@[simp]
theorem Failure.template?_ofFault (context : String) (fault : FileFault) :
    (Failure.ofFault context fault).template? = none := rfl

/-! ### Results -/

section
variable {α β : Type}

/-- No problem of the result blames a template. -/
def Silent (result : Except Problem α) : Prop :=
  ∀ problem, result = .error problem → problem.template? = none

/-- What succeeds blames nothing. -/
theorem silent_ok (a : α) : Silent (.ok a) := by
  intro problem h
  cases h

/-- A problem that blames no template may be reported silently. -/
theorem silent_error {problem : Problem} (h : problem.template? = none) :
    Silent (.error problem : Except Problem α) := by
  intro found hfound
  cases hfound
  exact h

/-- A sequence is silent if both of its steps are. -/
theorem silent_bind {result : Except Problem α} {next : α → Except Problem β}
    (hresult : Silent result) (hnext : ∀ a, Silent (next a)) : Silent (result >>= next) := by
  cases result with
  | error problem => exact silent_error (hresult problem rfl)
  | ok a => exact hnext a

/-- A change of the value that comes out blames nothing. -/
theorem silent_map {result : Except Problem α} (change : α → β) (hresult : Silent result) :
    Silent (result.map change) := by
  cases result with
  | error problem => exact silent_error (hresult problem rfl)
  | ok a => exact silent_ok (change a)

/-- A silent step for each item is silent as a whole. -/
theorem silent_mapM {step : α → Except Problem β} {items : List α}
    (h : ∀ item, Silent (step item)) : Silent (items.mapM step) := by
  induction items with
  | nil => exact silent_ok []
  | cons item items ih =>
    rw [List.mapM_cons]
    apply silent_bind (h item)
    intro b
    exact silent_bind ih fun bs => silent_ok (b :: bs)

/-- A missing key is no fault of a template. It is reported with the name of the key and with what
to write under it, long before any template is loaded. -/
theorem silent_required (key : Key) (shape : Shape α) (mapping : Option Value) :
    Silent (key.required shape mapping) := by
  intro problem h
  obtain ⟨-, rfl⟩ := Key.required_eq_error_iff.1 h
  rfl

/-- Neither is a path of keys that leads nowhere. -/
theorem silent_values (token : DesignToken) (keys : List String) (usePrefix : Bool) :
    Silent (token.values keys usePrefix) := by
  intro problem h
  obtain ⟨-, rfl⟩ := DesignToken.values_eq_error_iff.1 h
  rfl

end

/-! ### Actions -/

/-- Each failure of the action that blames a template blames an allowed one. -/
def Blames {α : Type} (allowed : String → Prop) (action : Action α) : Prop :=
  action.FailsOnly fun failure => ∀ template ∈ failure.template?, allowed template

namespace Blames

open DesignTokens.Action

variable {α β : Type} {allowed : String → Prop}

/-- A value blames nothing. -/
theorem pure (a : α) : Blames allowed (Pure.pure a : Action α) :=
  failsOnly_pure a

/-- A failure without a template to blame is allowed anywhere. -/
theorem throw {failure : Failure} (h : failure.template? = none) :
    Blames allowed (MonadExcept.throw failure : Action α) :=
  failsOnly_throw (by simp [h])

/-- A sequence blames only what one of its steps blames. -/
theorem bind {action : Action α} {next : α → Action β} (haction : Blames allowed action)
    (hnext : ∀ a, Blames allowed (next a)) : Blames allowed (action >>= next) :=
  failsOnly_bind haction hnext

/-- A context keeps the blame as it is. -/
theorem within {context : String} {action : Action α} (h : Blames allowed action) :
    Blames allowed (Action.within context action) :=
  failsOnly_within h

/-- A line of the log blames nothing, as it never fails. -/
theorem log (level : LogLevel) (message : String) : Blames allowed (Action.log level message) :=
  failsOnly_log level message

/-- A question about the files blames nothing either. -/
theorem ask (question : FileTree → α) : Blames allowed (Action.ask question) :=
  failsOnly_ask question

/-- A silent computation blames nothing. -/
theorem ofExcept {result : Except Problem α} (h : Silent result) :
    Blames allowed (Action.ofExcept result) :=
  failsOnly_ofExcept fun problem hproblem => by simp [h problem hproblem]

/-- A look at the files fails with a fault of them, which blames nothing. -/
theorem look (context : String) (question : FileTree → Except FileFault α) :
    Blames allowed (Action.look context question) :=
  failsOnly_look fun fault => by simp

/-- A change of the files fails in the same way, if it does. -/
theorem change (context : String) (step : FileTree → Except FileFault FileTree) :
    Blames allowed (Action.change context step) :=
  failsOnly_change fun fault => by simp

/-- A loop blames only what its rounds blame. -/
theorem forM {items : List α} {body : α → Action Unit}
    (h : ∀ item ∈ items, Blames allowed (body item)) : Blames allowed (items.forM body) :=
  failsOnly_forM h

/-- So does a loop that collects values. -/
theorem mapM {items : List α} {body : α → Action β}
    (h : ∀ item ∈ items, Blames allowed (body item)) : Blames allowed (items.mapM body) :=
  failsOnly_mapM h

/-! ### Work on files -/

/-- Writing a text blames no template. It makes folders first, and both can only fail over the
files. -/
theorem writeText (path content : String) : Blames allowed (Action.writeText path content) :=
  failsOnly_writeText (by simp) (by simp) path content

/-- Reading a text blames no template, also where the text is that of one. -/
theorem readText (path : String) : Blames allowed (Action.readText path) :=
  look _ _

/-- Copying a file blames no template. -/
theorem replaceFile (source destination : String) :
    Blames allowed (Action.replaceFile source destination) :=
  failsOnly_replaceFile (by simp) (by simp) source destination

/-- Listing a directory blames no template. -/
theorem listFiles (directory : String) : Blames allowed (Action.listFiles directory) :=
  bind (look _ _) fun _ => pure _

end Blames

end DesignTokens

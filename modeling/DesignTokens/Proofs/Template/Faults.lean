import DesignTokens.Proofs.Template.WellTold
import DesignTokens.Template.Render

/-!
# Names in the faults of templates

Whatever template is rendered in whatever context, a fault shows names where it says what was called
(`wellNamed_of_renderText`), so nothing else can be read out of these places. The proof goes along
expressions and nodes, one case for each way to build them. Calls of snippets are a premise there,
which is then met by induction on how deep they nest.
-/

set_option autoImplicit false

namespace DesignTokens.Template

/-! ### Single steps -/

/-- A variable that should be a number is reported by its path. -/
theorem wellTold_variableNumber (path : String) (value : Value) :
    WellTold (variableNumber path value) := by
  unfold variableNumber
  split
  · exact wellTold_ok _
  · exact wellTold_error_iff.2 trivial

/-- A variable that cannot stand in a concatenation is reported by its path. -/
theorem wellTold_concatenated (path : String) (value : Value) :
    WellTold (concatenated path value) := by
  unfold concatenated
  split
  · exact wellTold_ok _
  · exact wellTold_ok _
  · exact wellTold_error_iff.2 trivial

/-- An answer that should be a truth value is reported by the name of the function. -/
theorem wellTold_answeredTruth (name : String) (value : Value) :
    WellTold (answeredTruth name value) := by
  unfold answeredTruth
  split
  · exact wellTold_ok _
  · exact wellTold_error_iff.2 trivial

/-- An answer that should be a number is reported by the name of the function. -/
theorem wellTold_answeredNumber (name : String) (value : Value) :
    WellTold (answeredNumber name value) := by
  unfold answeredNumber
  split
  · exact wellTold_ok _
  · exact wellTold_error_iff.2 trivial

/-- An answer that cannot stand in a concatenation is reported by the name of the function. -/
theorem wellTold_answeredText (name : String) (value : Value) :
    WellTold (answeredText name value) := by
  unfold answeredText
  split
  · exact wellTold_ok _
  · exact wellTold_ok _
  · exact wellTold_error_iff.2 trivial

/-- Membership fails over a container that can hold nothing, without any name. -/
theorem wellTold_holds (element container : Value) : WellTold (holds element container) := by
  unfold holds
  split
  all_goals first | exact wellTold_ok _ | exact wellTold_error_iff.2 trivial

/-- A comparison of what may be no numbers fails without any name. -/
theorem wellTold_compareNumbers (accepts : Ordering → Bool) (x y : Option Number) :
    WellTold (compareNumbers accepts x y) := by
  unfold compareNumbers
  split
  · exact wellTold_ok _
  · exact wellTold_error_iff.2 trivial

/-- What filters make of a number is reported without any name if it is no number. -/
theorem wellTold_resultNumber (value : Value) : WellTold (resultNumber value) := by
  unfold resultNumber
  split
  · exact wellTold_ok _
  · exact wellTold_error_iff.2 trivial

/-- The answers of an expression are well told. -/
structure Answers.AllTold (answers : Answers) : Prop where
  truth : WellTold (answers.truth ())
  number : WellTold (answers.number ())
  value : WellTold (answers.value ())

/-- A relation tells its faults well if both of its sides do. Each relation asks its sides for
values, numbers or truths, and fails as the first side that fails. -/
theorem Relation.wellTold_decide (relation : Relation) (negated : Bool) {lhs rhs : Answers}
    (hlhs : lhs.AllTold) (hrhs : rhs.AllTold) : WellTold (relation.decide negated lhs rhs) := by
  have hvalues (answer : Value → Value → Bool) :
      WellTold (do return answer (← lhs.value ()) (← rhs.value ())) :=
    hlhs.value.bind fun _ => hrhs.value.bind fun _ => wellTold_pure _
  have hnumbers (accepts : Ordering → Bool) :
      WellTold (do
        return (← compareNumbers accepts (← lhs.number ()) (← rhs.number ())) != negated) :=
    hlhs.number.bind fun _ => hrhs.number.bind fun _ =>
      (wellTold_compareNumbers _ _ _).bind fun _ => wellTold_pure _
  cases relation with
  | both | either =>
    refine hlhs.truth.bind fun holds => ?_
    split
    · first | exact hrhs.truth.bind fun _ => wellTold_pure _ | exact wellTold_pure _
    · first | exact hrhs.truth.bind fun _ => wellTold_pure _ | exact wellTold_pure _
  | equal => exact hvalues fun x y => (equal? x y).any fun same => same != negated
  | notEqual => exact hvalues fun x y => (equal? x y).any fun same => !same != negated
  | less | lessEqual | greater | greaterEqual => exact hnumbers _

/-- An operation on two numbers fails by the texts of its sides, as they are written, or over a
result that is no number. -/
theorem Arithmetic.wellTold_apply (operator : Arithmetic) (lhs rhs : Expression) (x y : Number) :
    WellTold (operator.apply lhs rhs x y) := by
  -- three of the operators combine integers exactly and doubles with rounding
  have hcombine (sign : String) (exact : Int → Int → Int)
      (rounded : Binary64 → Binary64 → Option Binary64) :
      WellTold (combine sign exact rounded x y) := by
    unfold combine
    split
    · split
      · exact wellTold_ok _
      · exact wellTold_error_iff.2 trivial
    · exact wellTold_ok _
  cases operator with
  | plus | minus | times => exact hcombine _ _ _
  | divide => exact wellTold_ok _
  | modulo =>
    change WellTold (remainder lhs rhs x y)
    unfold remainder
    split
    · split
      · exact wellTold_error_iff.2 trivial
      · exact wellTold_ok _
    · exact wellTold_ok _

/-- An operation tells its faults well if both of its sides do; a side without a number is no
fault. -/
theorem Arithmetic.wellTold_calculate (operator : Arithmetic) (lhs rhs : Expression)
    {x y : Except TemplateFault (Option Number)} (hx : WellTold x) (hy : WellTold y) :
    WellTold (operator.calculate lhs rhs x y) := by
  refine hx.bind fun _ => hy.bind fun _ => ?_
  split
  · exact operator.wellTold_apply lhs rhs _ _
  · exact wellTold_pure _

/-- What a term comes to is told well if the term, its fallback and its filters tell their faults
well. -/
theorem wellTold_settle (negated : Bool) (term : Term) {found : Except TemplateFault Value}
    {fallback : Option (Except TemplateFault Value)}
    {filtered : Value → Except TemplateFault Value} (hfound : WellTold found)
    (hfallback : ∀ other ∈ fallback, WellTold other)
    (hfiltered : ∀ value, WellTold (filtered value)) :
    WellTold (settle negated term found fallback filtered) := by
  have hfinish (value : Value) :
      WellTold (do
        let value ← filtered value
        return if negated then .bool (!value.isTruthy) else value) :=
    (hfiltered value).bind fun _ => wellTold_pure _
  unfold settle
  dsimp only
  split
  · split
    · exact (hfallback _ rfl).bind hfinish
    · exact hfinish _
    · exact (hfallback _ rfl).bind hfinish
    · split
      · exact wellTold_ok _
      · exact hfound
  · exact hfound.bind hfinish

/-- A loop names its container as the template does, or reports that it has no name. -/
theorem wellTold_containerName (term : Term) : WellTold (containerName term) := by
  unfold containerName
  split
  · exact wellTold_ok _
  · exact wellTold_ok _
  · exact wellTold_ok _
  · exact wellTold_error_iff.2 trivial

/-- A value that cannot be looped over is reported by the name of the container. -/
theorem wellTold_loopItems (keyed : Bool) (name : String) (value : Value) :
    WellTold (loopItems keyed name value) := by
  unfold loopItems
  split
  all_goals first | split | skip
  all_goals first | exact wellTold_ok _ | exact wellTold_error_iff.2 trivial

/-- A loop that is left outside of loops is reported by the word for leaving it. -/
theorem wellTold_leaveBody (word : String) (course : Course) (scope : Scope) :
    WellTold (leaveBody word course scope) := by
  unfold leaveBody
  split
  · exact wellTold_error_iff.2 trivial
  · exact wellTold_ok _

/-- A loop tells its faults well if its body does, for whatever items are left and in whatever
scope. The induction is on the items. -/
theorem wellTold_renderItems {body : Scope → Except TemplateFault Rendered}
    (hbody : ∀ scope, WellTold (body scope)) (enter : Nat → Option String × Value → Loop)
    (index : Nat) (items : List (Option String × Value)) (text : String) (scope : Scope) :
    WellTold (renderItems body enter index items text scope) := by
  induction items generalizing index text scope with
  | nil => exact wellTold_ok _
  | cons item rest ih =>
    -- a fault of the body is placed in the loop, which shows no name
    rw [renderItems]
    refine ((hbody _).mapError fun fault h => h.place h).bind fun rendered => ?_
    dsimp only
    split
    · exact wellTold_pure _
    · exact ih _ _ _

/-- A text that cannot be read is reported without any name of the template. -/
theorem Document.wellTold_parse (text : String) : WellTold (Document.parse text) := by
  unfold Document.parse
  dsimp only
  split
  · exact wellTold_error_iff.2 trivial
  · exact wellTold_error_iff.2 trivial
  · split
    · exact wellTold_throw_iff.2 trivial
    · repeat (split; · exact wellTold_error_iff.2 trivial)
      exact wellTold_pure _

/-! ### Calls -/

/-- What is given to a call is well told. -/
def AllTold (given : List (String × Except TemplateFault Value)) : Prop :=
  ∀ argument ∈ given, WellTold argument.2

/-- Arguments that are all told well are told well as a whole. -/
theorem AllTold.membersOf {given : List (String × Except TemplateFault Value)} (h : AllTold given) :
    WellTold (membersOf given) :=
  wellTold_mapM fun argument hargument => (h argument hargument).bind fun _ => wellTold_pure _

/-- A call of a snippet reports an argument that is missing or unknown by its name and the name of
the snippet, both of which a template can write. -/
theorem Snippet.wellTold_argumentsOf (snippet : Snippet) (name : String)
    {given : List (String × Except TemplateFault Value)} (h : AllTold given) :
    WellTold (snippet.argumentsOf name given) := by
  refine wellTold_mapM fun parameter _ => ?_
  dsimp only
  split
  · rename_i value hvalue
    exact (h _ (Keyed.mem_of_lookup hvalue)).bind fun _ => wellTold_pure _
  · exact wellTold_pure _
  · exact wellTold_throw_iff.2 trivial

/-- Calls of snippets with arguments that are well told are well told. -/
def CallsTold (call : SnippetCall) : Prop :=
  ∀ space name given, AllTold given → WellTold (call space name given)

variable [Engine]

/-- A filter tells its faults well if its arguments do: it is unknown, it fails over its arguments,
or it fails in its own words under its name. -/
theorem AllTold.applyFilter {given : List (String × Except TemplateFault Value)} (h : AllTold given)
    (name : String) (value : Value) : WellTold (applyFilter name given value) := by
  intro fault hfails
  rcases Result.bind_eq_error_iff.1 hfails with hfails | ⟨filter, hfind, hfails⟩
  · exact FilterFunction.wellTold_find name fault hfails
  · obtain ⟨hname, hfilter⟩ := FilterFunction.wellTold_of_find hfind
    refine WellTold.mapError (h.membersOf.bind fun _ => hfilter _ value) (fun cause hcause => ?_)
      fault hfails
    exact hcause.causing fun _ h => ⟨hname, h⟩

/-- A function tells its faults well if its arguments do: it is unknown, or it fails in its own
words under its name. -/
theorem AllTold.callFunction {given : List (String × Except TemplateFault Value)}
    (h : AllTold given)
    (name : String) : WellTold (callFunction name given) := by
  intro fault hfails
  rcases Result.bind_eq_error_iff.1 hfails with hfails | ⟨function, hfind, hfails⟩
  · exact Engine.wellTold_findFunction name fault hfails
  · obtain ⟨hname, hfunction⟩ := Engine.wellTold_of_findFunction hfind
    refine WellTold.mapError (h.membersOf.bind fun _ => hfunction _) (fun cause hcause => ?_)
      fault hfails
    exact hcause.causing fun _ h => ⟨hname, h⟩

/-- A test tells its faults well if its arguments do. -/
theorem wellTold_applyTest (scope : Scope) (name path : String)
    {arguments : Except TemplateFault (List Value)} (h : WellTold arguments) :
    WellTold (applyTest scope name path arguments) := by
  intro fault hfails
  rcases Result.bind_eq_error_iff.1 hfails with hfails | ⟨test, hfind, hfails⟩
  · exact TestFunction.wellTold_find name fault hfails
  · obtain ⟨hname, htest⟩ := TestFunction.wellTold_of_find hfind
    refine WellTold.mapError (h.bind fun _ => htest _ _) (fun cause hcause => ?_) fault hfails
    exact hcause.causing fun _ h => ⟨hname, h⟩

/-! ### Expressions -/

/-- What an expression comes to in each of the ways in which it may be asked. -/
def Expression.answers (around : Surroundings) (expression : Expression) : Answers :=
  ⟨fun _ => expression.truth around, fun _ => expression.number around,
    fun _ => expression.value around⟩

/-- What a term comes to is well told, whether it is negated or not. -/
structure Term.AllTold (around : Surroundings) (term : Term) : Prop where
  value (negated : Bool) : WellTold (term.value around negated)
  truth (negated : Bool) : WellTold (term.truth around negated)
  number : WellTold (term.number around)

/-- A literal has a value, and its truth is known. -/
theorem Term.allTold_of_ok {around : Surroundings} {term : Term} {value : Bool → Value}
    {truth : Bool → Bool} (hvalue : ∀ negated, term.value around negated = .ok (value negated))
    (htruth : ∀ negated, term.truth around negated = .ok (truth negated))
    (hnumber : WellTold (term.number around)) : term.AllTold around where
  value negated := by
    rw [hvalue]
    exact wellTold_ok _
  truth negated := by
    rw [htruth]
    exact wellTold_ok _
  number := hnumber

/-- A term whose value and truth come from one result, and which is no number. -/
theorem Term.allTold_of_bind {α : Type} {around : Surroundings} {term : Term}
    {result : Except TemplateFault α} {value : Bool → α → Value} {truth : Bool → α → Bool}
    (hresult : WellTold result)
    (hvalue : ∀ negated, term.value around negated = do return value negated (← result))
    (htruth : ∀ negated, term.truth around negated = do return truth negated (← result))
    (hnumber : WellTold (term.number around)) : term.AllTold around where
  value negated := by
    rw [hvalue]
    exact hresult.bind fun _ => wellTold_pure _
  truth negated := by
    rw [htruth]
    exact hresult.bind fun _ => wellTold_pure _
  number := hnumber

section
variable {around : Surroundings}

mutual

/-- Whatever an expression is asked for, its faults are told well if those of calls of snippets are.
The proof has one case for each way to build a term; snippets that are called are the premise. -/
theorem Expression.allTold (hcall : CallsTold around.call) :
    ∀ e : Expression, (e.answers around).AllTold
  | .mk negated term filters => by
    have hterm := Term.allTold hcall term
    have hsettled : WellTold (settle negated term (term.value around negated)
        (fallback? around filters) (filteredValue around filters)) :=
      wellTold_settle negated term (hterm.value negated) (wellTold_fallback hcall filters)
        (wellTold_filteredValue hcall filters)
    constructor
    case value =>
      change WellTold (Expression.value around _)
      rw [Expression.value]
      exact hsettled
    case truth =>
      change WellTold (Expression.truth around _)
      -- a condition asks its term in different ways: a variable never fails it
      rw [Expression.truth.eq_def]
      dsimp only
      split
      · split <;> exact wellTold_ok _
      · exact hsettled.bind fun _ => wellTold_pure _
      · exact hterm.truth negated
    case number =>
      change WellTold (Expression.number around _)
      rw [Expression.number]
      split
      · exact hterm.number
      · exact hsettled.bind wellTold_resultNumber

/-- Terms tell their faults well under the same premise, whether they are asked for a value, a truth
or a number. -/
theorem Term.allTold (hcall : CallsTold around.call) : ∀ t : Term, t.AllTold around
  | .string _ | .boolean _ => by
    refine Term.allTold_of_ok (fun _ => by rw [Term.value]) (fun _ => by rw [Term.truth]) ?_
    rw [Term.number]
    exact wellTold_error_iff.2 trivial
  | .integer _ | .float _ => by
    refine Term.allTold_of_ok (fun _ => by rw [Term.value]) (fun _ => by rw [Term.truth]) ?_
    rw [Term.number]
    exact wellTold_ok _
  | .variable path => by
    have hfound := around.scope.wellTold_resolve path
    constructor
    case value =>
      intro negated
      rw [Term.value]
      exact hfound
    case truth =>
      intro negated
      rw [Term.truth]
      exact hfound.bind fun _ => wellTold_pure _
    case number =>
      rw [Term.number]
      exact hfound.bind (wellTold_variableNumber path)
  | .arithmetic operator lhs rhs => by
    have hresult := operator.wellTold_calculate lhs rhs (Expression.allTold hcall lhs).number
      (Expression.allTold hcall rhs).number
    constructor
    case value =>
      intro negated
      rw [Term.value]
      split
      · exact wellTold_ok _
      · rename_i fault hfault
        refine wellTold_error_iff.2 (TemplateFault.WellNamed.causing ?_ fun _ _ => trivial)
        exact hresult fault hfault
    case truth =>
      intro negated
      rw [Term.truth]
      exact hresult.bind fun _ => wellTold_pure _
    case number =>
      rw [Term.number]
      exact hresult
  | .relation relation lhs rhs => by
    have hdecided (negated : Bool) := relation.wellTold_decide negated
      (Expression.allTold hcall lhs) (Expression.allTold hcall rhs)
    constructor
    case value =>
      intro negated
      rw [Term.value]
      exact (hdecided negated).bind fun _ => wellTold_pure _
    case truth =>
      intro negated
      rw [Term.truth]
      exact hdecided negated
    case number =>
      rw [Term.number]
      exact wellTold_error_iff.2 trivial
  | .membership _ element container => by
    have hheld {α : Type} (next : Bool → α) :
        WellTold (do
          return next (← holds (← element.value around) (← container.value around))) :=
      (Expression.allTold hcall element).value.bind fun _ =>
        (Expression.allTold hcall container).value.bind fun _ =>
          (wellTold_holds _ _).bind fun _ => wellTold_pure _
    constructor
    case value =>
      intro negated
      rw [Term.value]
      exact hheld _
    case truth =>
      intro negated
      rw [Term.truth]
      exact hheld _
    case number =>
      rw [Term.number]
      exact wellTold_error_iff.2 trivial
  | .test _ path name arguments => by
    refine Term.allTold_of_bind
      (wellTold_applyTest around.scope name path (wellTold_valuesOf hcall arguments))
      (fun _ => by rw [Term.value]) (fun _ => by rw [Term.truth]) ?_
    rw [Term.number]
    exact wellTold_error_iff.2 trivial
  | .call name arguments => by
    have hanswer := (allTold_namedOf hcall arguments).callFunction name
    constructor
    case value =>
      intro negated
      rw [Term.value]
      exact hanswer
    case truth =>
      intro negated
      rw [Term.truth]
      exact (hanswer.bind (wellTold_answeredTruth name)).bind fun _ => wellTold_pure _
    case number =>
      rw [Term.number]
      exact hanswer.bind (wellTold_answeredNumber name)
  | .snippet space name arguments => by
    refine Term.allTold_of_bind (hcall space name _ (allTold_namedOf hcall arguments))
      (fun _ => by rw [Term.value]) (fun _ => by rw [Term.truth]) ?_
    rw [Term.number]
    exact wellTold_error_iff.2 trivial
  | .array items => by
    refine Term.allTold_of_bind (wellTold_valuesOf hcall items)
      (fun _ => by rw [Term.value]) (fun _ => by rw [Term.truth]) ?_
    rw [Term.number]
    exact wellTold_error_iff.2 trivial
  | .concatenation parts => by
    refine Term.allTold_of_bind (wellTold_joined hcall parts)
      (fun _ => by rw [Term.value]) (fun _ => by rw [Term.truth]) ?_
    rw [Term.number]
    exact wellTold_error_iff.2 trivial

/-- So do lists of expressions. -/
theorem wellTold_valuesOf (hcall : CallsTold around.call) :
    ∀ items : List Expression, WellTold (valuesOf around items)
  | [] => by
    rw [valuesOf]
    exact wellTold_ok _
  | item :: items => by
    rw [valuesOf]
    exact (Expression.allTold hcall item).value.bind fun _ =>
      (wellTold_valuesOf hcall items).bind fun _ => wellTold_pure _

/-- So do named arguments, each for itself. -/
theorem allTold_namedOf (hcall : CallsTold around.call) :
    ∀ arguments : List (String × Expression), AllTold (namedOf around arguments)
  | [] => by
    rw [namedOf]
    exact List.forall_mem_nil _
  | (_, argument) :: arguments => by
    rw [namedOf]
    exact List.forall_mem_cons.2
      ⟨(Expression.allTold hcall argument).value, allTold_namedOf hcall arguments⟩

/-- So do the parts of a concatenation. -/
theorem wellTold_joined (hcall : CallsTold around.call) :
    ∀ parts : List Term, WellTold (joined around parts)
  | [] => by
    rw [joined]
    exact wellTold_ok _
  | part :: parts => by
    have hrest (text : List Char) : WellTold (do return text ++ (← joined around parts)) :=
      (wellTold_joined hcall parts).bind fun _ => wellTold_pure _
    -- the text of the part is bound before the rest is joined, whatever the part is
    rw [joined.eq_def]
    dsimp only
    split
    · exact (wellTold_pure _).bind hrest
    · exact (wellTold_pure _).bind hrest
    · exact (wellTold_pure _).bind hrest
    · rename_i path
      exact ((around.scope.wellTold_resolve path).bind (wellTold_concatenated path)).bind hrest
    · rename_i name arguments
      exact (((allTold_namedOf hcall arguments).callFunction name).bind
        (wellTold_answeredText name)).bind hrest
    · exact (wellTold_pure _).bind hrest

/-- So does the fallback among the filters of an expression, if there is one. -/
theorem wellTold_fallback (hcall : CallsTold around.call) :
    ∀ filters : List Filter, ∀ other ∈ fallback? around filters, WellTold other
  | [] => by
    rw [fallback?]
    exact nofun
  | .mk name arguments :: _ => by
    have harguments := allTold_namedOf hcall arguments
    rw [fallback?]
    split
    · intro other hother
      cases hother
      rcases hvalue : (namedOf around arguments).lookup "value" with _ | given
      · exact wellTold_error_iff.2 trivial
      · exact harguments _ (Keyed.mem_of_lookup hvalue)
    · exact nofun

/-- So do the filters of an expression, whatever value they are applied to. -/
theorem wellTold_filteredValue (hcall : CallsTold around.call) :
    ∀ (filters : List Filter) (value : Value), WellTold (filteredValue around filters value)
  | [], value => by
    rw [filteredValue]
    exact wellTold_ok value
  | .mk name arguments :: filters, value => by
    rw [filteredValue]
    split
    · exact wellTold_filteredValue hcall filters value
    · exact ((allTold_namedOf hcall arguments).applyFilter name value).bind
        (wellTold_filteredValue hcall filters)

end

end

/-! ### Nodes -/

section
variable {call : SnippetCall}

/-- So does the filter around a part of a template. -/
theorem wellTold_filteredText (hcall : CallsTold call) (scope : Scope) (filter : Filter)
    (text : String) : WellTold (filteredText ⟨scope, call⟩ filter text) := by
  unfold filteredText
  split
  · exact wellTold_ok text
  · exact ((allTold_namedOf hcall filter.arguments).applyFilter filter.name _).bind
      fun _ => wellTold_pure _

mutual

/-- Rendering a node tells its faults well in every scope, if calls of snippets do. -/
theorem Node.wellTold_render (hcall : CallsTold call) :
    ∀ (node : Node) (scope : Scope), WellTold (node.render call scope)
  | .text _, _ | .snippet _ _ _, _ => by
    rw [Node.render]
    exact wellTold_ok _
  | .output expression, scope => by
    rw [Node.render]
    exact ((Expression.allTold hcall expression).value).bind fun _ => wellTold_pure _
  | .assign _ _ expression, scope => by
    rw [Node.render]
    exact ((Expression.allTold hcall expression).value).bind fun _ => wellTold_pure _
  | .conditional branches otherwise, scope => by
    rw [Node.render]
    exact wellTold_renderBranches hcall branches scope (wellTold_renderAll hcall otherwise)
  | .loop key value container body otherwise, scope => by
    rw [Node.render]
    refine (wellTold_containerName container.term).bind fun name =>
      (Expression.allTold hcall container).value.bind fun found =>
        (wellTold_loopItems key.isSome name found).bind fun items => ?_
    split
    · exact wellTold_renderAll hcall otherwise scope
    · exact wellTold_renderItems (wellTold_renderAll hcall body) _ _ _ _ _
  | .filtered filter body, scope => by
    rw [Node.render]
    exact (wellTold_renderAll hcall body scope).bind fun rendered =>
      (wellTold_filteredText hcall rendered.scope filter _).bind fun _ => wellTold_pure _
  | .block _ body, scope => by
    rw [Node.render]
    exact wellTold_renderAll hcall body scope
  | .include _ _, _ => by
    rw [Node.render]
    split
    · exact wellTold_ok _
    · exact wellTold_error_iff.2 trivial
  | .inherited, _ => by
    rw [Node.render]
    exact wellTold_error_iff.2 trivial
  | .breakLoop, scope => by
    rw [Node.render]
    exact wellTold_leaveBody _ _ scope
  | .continueLoop, scope => by
    rw [Node.render]
    exact wellTold_leaveBody _ _ scope

/-- So does rendering nodes one after the other. -/
theorem wellTold_renderAll (hcall : CallsTold call) :
    ∀ (nodes : List Node) (scope : Scope), WellTold (renderAll call nodes scope)
  | [], scope => by
    rw [renderAll]
    exact wellTold_ok _
  | node :: rest, scope => by
    rw [renderAll]
    refine (Node.wellTold_render hcall node scope).bind fun first => ?_
    split
    · exact (wellTold_renderAll hcall rest first.scope).bind fun _ => wellTold_pure _
    · exact wellTold_pure _

/-- So does rendering the branch whose condition holds, or what stands for none. -/
theorem wellTold_renderBranches (hcall : CallsTold call) :
    ∀ (branches : List (Expression × List Node)) (scope : Scope)
      {otherwise : Scope → Except TemplateFault Rendered},
      (∀ scope, WellTold (otherwise scope)) →
        WellTold (renderBranches call branches scope otherwise)
  | [], scope, _, hotherwise => by
    rw [renderBranches]
    exact hotherwise scope
  | (condition, body) :: rest, scope, _, hotherwise => by
    rw [renderBranches]
    refine (Expression.allTold hcall condition).truth.bind fun holds => ?_
    split
    · exact wellTold_renderAll hcall body scope
    · exact wellTold_renderBranches hcall rest scope hotherwise

end

end

/-! ### Snippets -/

namespace Snippet

/-- The induction is on how deep calls nest; the body of a snippet makes calls one deeper. -/
theorem callsTold_callWithin {snippets : List (String × Snippet)}
    (hnames : ∀ entry ∈ snippets, IsName entry.1) (context : Members) (depth : Nat) :
    CallsTold (callWithin snippets context depth) := by
  induction depth with
  | zero => exact fun _ _ _ _ => wellTold_error_iff.2 trivial
  | succ depth ih =>
    intro space name given hgiven
    rw [callWithin]
    dsimp only
    split
    · exact wellTold_error_iff.2 trivial
    · rename_i hknown
      have hself : IsName space := by
        simp only [ne_eq, Bool.or_eq_true, decide_eq_true_eq, not_or, not_not] at hknown
        rw [hknown.1]
        decide
      split
      · exact wellTold_throw_iff.2 trivial
      · -- only here a fault gets the names of a snippet, and both are names by now
        rename_i snippet hlookup
        have hname := hnames _ (Keyed.mem_of_lookup hlookup)
        refine (snippet.wellTold_argumentsOf name hgiven).bind fun assigned => ?_
        refine WellTold.bind ?_ fun _ => wellTold_pure _
        refine (wellTold_renderAll ih snippet.body _).mapError fun fault h => ?_
        exact h.place ⟨hself, hname, h⟩

end Snippet

/-! ### Templates -/

/-- What a fault of a template says was called has a name that a template can write, in any context
and with any engine. That is so for each way to build an expression or a node. Snippets may call
each other, so their depth carries the induction. -/
theorem wellNamed_of_renderText {text : String} {context : Members} {fault : TemplateFault}
    (h : renderText text context = .error fault) : fault.WellNamed := by
  rcases Result.bind_eq_error_iff.1 h with h | ⟨document, hparse, h⟩
  · exact Document.wellTold_parse text fault h
  · have hnames : ∀ entry ∈ document.snippets, IsName entry.1 := fun entry hentry =>
      Document.isName_of_parse hparse hentry
    have hcall := Snippet.callsTold_callWithin hnames context Snippet.maxDepth
    exact ((wellTold_renderAll hcall document.nodes _).bind fun _ => wellTold_pure _) fault h

end DesignTokens.Template

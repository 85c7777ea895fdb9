import DesignTokens.Proofs.Keyed
import DesignTokens.Proofs.Result
import DesignTokens.Proofs.Template.SnippetNames
import DesignTokens.Template.Render

/-!
# Names in faults

A fault that lies in a call shows what was called: a filter, a test, a function or a snippet.
`WellNamed` says that this is a name, and a result is `WellTold` if its fault is `WellNamed`.
Looking up a variable is, and so are filters, tests and functions: those that there are, spelled
out or the engine's, have names (`wellTold_of_find`), and none of them calls another.
-/

set_option autoImplicit false

namespace DesignTokens

open Template

namespace TemplateFault

/-- What a fault says was called has a name. -/
def WellNamed : TemplateFault → Prop
  | .filterFailed name cause | .testFailed name cause | .functionFailed name cause =>
    IsName name ∧ cause.WellNamed
  | .inSnippet space name cause => IsName space ∧ IsName name ∧ cause.WellNamed
  | .inLoop cause => cause.WellNamed
  | _ => True

/-- A fault that gets a place keeps its names. -/
theorem WellNamed.place {body : TemplateFault → TemplateFault} {fault : TemplateFault}
    (h : fault.WellNamed) (hbody : (body fault).WellNamed) : (fault.place body).WellNamed := by
  unfold TemplateFault.place
  split
  · exact h
  · exact hbody

/-- A fault that becomes a cause keeps its names. -/
theorem WellNamed.causing {effect : TemplateFault → TemplateFault} {fault : TemplateFault}
    (h : fault.WellNamed) (heffect : ∀ cause, cause.WellNamed → (effect cause).WellNamed) :
    (fault.causing effect).WellNamed := by
  unfold TemplateFault.causing
  split
  · exact ⟨h.1, h.2.1, heffect _ h.2.2⟩
  · exact heffect _ h
  · exact heffect _ h

end TemplateFault

namespace Template

/-! ### Results -/

section
variable {α β : Type}

/-- What the fault of a result says was called has a name. -/
def WellTold (result : Except TemplateFault α) : Prop :=
  ∀ fault, result = .error fault → fault.WellNamed

/-- What succeeds tells nothing. -/
@[simp]
theorem wellTold_ok (a : α) : WellTold (.ok a) := nofun

/-- A plain value tells nothing either. -/
@[simp]
theorem wellTold_pure (a : α) : WellTold (pure a) := nofun

/-- A single fault is told well exactly if all names in it are ones that a template can write. -/
@[simp]
theorem wellTold_error_iff {fault : TemplateFault} :
    WellTold (.error fault : Except TemplateFault α) ↔ fault.WellNamed := by
  refine ⟨fun h => h fault rfl, fun h found hfound => ?_⟩
  cases hfound
  exact h

/-- The same for a fault that is thrown. -/
@[simp]
theorem wellTold_throw_iff {fault : TemplateFault} :
    WellTold (throw fault : Except TemplateFault α) ↔ fault.WellNamed :=
  wellTold_error_iff

/-- A sequence tells its faults well if both of its steps do, whatever the first one hands on. -/
theorem WellTold.bind {result : Except TemplateFault α} {next : α → Except TemplateFault β}
    (hresult : WellTold result) (hnext : ∀ a, WellTold (next a)) : WellTold (result >>= next) := by
  cases result with
  | error fault => exact wellTold_error_iff.2 (hresult fault rfl)
  | ok a => exact hnext a

/-- A change of the value that comes out leaves the faults as they are. -/
@[simp]
theorem wellTold_map_iff {result : Except TemplateFault α} {change : α → β} :
    WellTold (change <$> result) ↔ WellTold result := by
  cases result with
  | error fault =>
    change WellTold (.error fault) ↔ _
    simp only [wellTold_error_iff]
  | ok a =>
    change WellTold (.ok (change a)) ↔ _
    simp only [wellTold_ok]

/-- A change of the faults keeps them well told if it keeps each of them well named. -/
theorem WellTold.mapError {result : Except TemplateFault α} {change : TemplateFault → TemplateFault}
    (h : WellTold result) (hchange : ∀ fault, fault.WellNamed → (change fault).WellNamed) :
    WellTold (result.mapError change) := by
  cases result with
  | error fault => exact wellTold_error_iff.2 (hchange fault (h fault rfl))
  | ok a => exact wellTold_ok a

/-- A step for each item tells its faults well if it does so for each item. -/
theorem wellTold_mapM {step : α → Except TemplateFault β} {items : List α}
    (h : ∀ item ∈ items, WellTold (step item)) : WellTold (items.mapM step) := by
  intro fault hfails
  obtain ⟨before, item, after, rfl, -, hitem⟩ := Result.mapM_eq_error_iff.1 hfails
  exact h item (List.mem_append_right _ List.mem_cons_self) fault hitem

/-- So does a fold over the items, from whatever value it has come to. -/
theorem wellTold_foldlM {step : β → α → Except TemplateFault β} {items : List α}
    (h : ∀ b, ∀ item ∈ items, WellTold (step b item)) (b : β) :
    WellTold (items.foldlM step b) := by
  induction items generalizing b with
  | nil => exact wellTold_pure b
  | cons item items ih =>
    rw [List.foldlM_cons]
    exact (h b item List.mem_cons_self).bind fun b' =>
      ih (fun b item hitem => h b item (List.mem_cons_of_mem _ hitem)) b'

end

/-! ### Variables -/

namespace Scope

/-- The evaluated form of a path comes to a value, or to the fault of an index that was looked up.
The faults that look-ups report are named by the path that was written. -/
theorem wellTold_evaluated {resolve : List Char → Except TemplateFault Value} (path : List Char) :
    WellTold (evaluated resolve path) := by
  refine (wellTold_foldlM (fun text index _ => ?_) path).bind fun _ => wellTold_pure _
  split
  · exact wellTold_error_iff.2 trivial
  · split
    · exact wellTold_error_iff.2 trivial
    · exact wellTold_ok _

/-- The look-up of a path in a scope tells its faults well: an unknown variable by its path, an
index that cannot be used by the index and the path. -/
theorem wellTold_resolve (scope : Scope) (path : String) : WellTold (scope.resolve path) := by
  unfold resolve
  split
  · exact wellTold_ok _
  rw [resolveWithin]
  split
  · split
    · rename_i fault hfault
      exact wellTold_error_iff.2 (wellTold_evaluated _ fault hfault)
    · split
      · exact wellTold_ok _
      · exact wellTold_error_iff.2 trivial
  · split
    · exact wellTold_ok _
    · exact wellTold_error_iff.2 trivial

end Scope

/-! ### The engine -/

/-- What the engine fails with in its own words calls nothing by its name. -/
theorem wellTold_told {α : Type} (result : Except Complaint α) :
    WellTold (result.mapError .told) := by
  cases result with
  | ok a => exact wellTold_ok a
  | error complaint => exact wellTold_error_iff.2 trivial

namespace Engine

variable [Engine] {name : String}

/-- The name of a filter that an engine adds is one that a template can write. -/
theorem isName_of_filter {filter : Members → Value → Except Complaint Value}
    (h : filters.lookup name = some filter) : IsName name := by
  apply named
  exact List.mem_append_left _ (List.mem_map_of_mem (Keyed.mem_of_lookup h))

/-- So is the name of a test that it adds. -/
theorem isName_of_test {test : List Value → Option Value → Except Complaint Bool}
    (h : tests.lookup name = some test) : IsName name := by
  apply named
  exact List.mem_append_right _
    (List.mem_append_left _ (List.mem_map_of_mem (Keyed.mem_of_lookup h)))

/-- So is the name of a function. -/
theorem isName_of_function {function : Members → Except Complaint Value}
    (h : functions.lookup name = some function) : IsName name := by
  apply named
  exact List.mem_append_right _
    (List.mem_append_right _ (List.mem_map_of_mem (Keyed.mem_of_lookup h)))

/-- A function has a name, and what it fails with is the engine's. -/
theorem wellTold_of_findFunction {function : Members → Except TemplateFault Value}
    (h : findFunction name = .ok function) :
    IsName name ∧ ∀ arguments, WellTold (function arguments) := by
  unfold findFunction at h
  split at h
  case h_1 found hfound =>
    cases h
    exact ⟨isName_of_function hfound, fun _ => wellTold_told _⟩
  case h_2 => cases h

/-- A function that is unknown is told by the name that the template writes. -/
theorem wellTold_findFunction (name : String) : WellTold (findFunction name) := by
  unfold findFunction
  split
  · exact wellTold_ok _
  · exact wellTold_error_iff.2 trivial

end Engine

/-! ### Filters and tests -/

namespace FilterFunction

/-- A value of the wrong kind is reported with the name of the filter that needs a text. -/
theorem wellTold_textOf (filter : String) (value : Value) : WellTold (textOf filter value) := by
  unfold textOf
  split
  · exact wellTold_ok _
  · exact wellTold_error_iff.2 trivial

/-- A value that is no list is reported in the same way. -/
theorem wellTold_itemsOf (filter : String) (value : Value) : WellTold (itemsOf filter value) := by
  unfold itemsOf
  split
  · exact wellTold_ok _
  · exact wellTold_error_iff.2 trivial

/-- An argument that is missing, or no text, is reported with the names of the filter and the
argument. -/
theorem wellTold_textArgument (filter argument : String) (arguments : Members) :
    WellTold (textArgument filter argument arguments) := by
  unfold textArgument
  split
  · exact wellTold_error_iff.2 trivial
  · exact wellTold_ok _
  · exact wellTold_error_iff.2 trivial

/-- Filters that change a text fail as the reading of the text does. -/
theorem wellTold_onText (filter : String) (change : List Char → List Char) (arguments : Members)
    (value : Value) : WellTold (onText filter change arguments value) :=
  (wellTold_textOf filter value).bind fun _ => wellTold_pure _

/-- The filters that avoid reserved words fail over their prefix only, in words of their own. -/
theorem wellTold_avoidReserved (filter : String) (reserved : List String) (arguments : Members)
    (value : Value) : WellTold (avoidReserved filter reserved arguments value) := by
  unfold avoidReserved
  split
  · exact wellTold_error_iff.2 trivial
  · split <;> simp

section
variable (arguments : Members) (value : Value)

/-- The filter that replaces parts of a text fails over its text or one of its arguments. -/
theorem wellTold_replace : WellTold (replace arguments value) :=
  (wellTold_textOf _ value).bind fun _ => (wellTold_textArgument _ _ arguments).bind fun _ =>
    (wellTold_textArgument _ _ arguments).bind fun _ => wellTold_pure _

/-- The filter that counts fails over a value that has no length. -/
theorem wellTold_length : WellTold (length arguments value) := by
  unfold length
  dsimp only
  split
  · exact wellTold_ok _
  · exact wellTold_ok _
  · exact wellTold_ok _
  · exact wellTold_error_iff.2 trivial

/-- The filter that joins fails over a list that it does not get or a separator that is no text. -/
theorem wellTold_join : WellTold (join arguments value) := by
  refine (wellTold_itemsOf _ value).bind fun items => ?_
  have hjoined (separator : List Char) : WellTold (do
      return stringValue (Text.join separator (items.map Value.display))) :=
    wellTold_pure _
  dsimp only
  split
  · exact (wellTold_pure _).bind hjoined
  · exact (wellTold_pure _).bind hjoined
  · exact WellTold.bind (wellTold_error_iff.2 trivial) hjoined

/-- Two values that cannot be compared are reported by their kinds. -/
theorem wellTold_rank (model key : Value) : WellTold (rank model key) := by
  unfold rank
  repeat' split
  all_goals first | exact wellTold_ok _ | exact wellTold_error_iff.2 trivial

/-- So is an item that lacks the field by which a list is sorted. -/
theorem wellTold_sortKey (field : List Char) (item : Value) : WellTold (sortKey field item) := by
  unfold sortKey
  split
  · exact wellTold_ok item
  · split
    · exact wellTold_ok _
    · exact wellTold_error_iff.2 trivial

/-- The filter that sorts fails over its list, over its field, or over two items of different
kinds. -/
theorem wellTold_sort : WellTold (sort arguments value) := by
  refine (wellTold_itemsOf _ value).bind fun items => ?_
  split
  · exact wellTold_pure _
  · rename_i head tail
    have hsorted (field : List Char) :
        WellTold (do
          let model ← sortKey field head
          let ranked ← (head :: tail).mapM fun item => do
            return (← rank model (← sortKey field item), item)
          return Value.array ((Stage.sortBy (fun a b => a.1.less b.1) ranked).map (·.2))) := by
      refine (wellTold_sortKey field head).bind fun model =>
        (wellTold_mapM fun item _ => ?_).bind fun _ => wellTold_pure _
      exact (wellTold_sortKey field item).bind fun key =>
        (wellTold_rank model key).bind fun _ => wellTold_pure _
    dsimp only
    split
    · exact (wellTold_pure _).bind hsorted
    · exact (wellTold_textArgument _ _ arguments).bind hsorted

/-- The filter that takes the first item fails over a value that is no list. -/
theorem wellTold_first : WellTold (first arguments value) :=
  (wellTold_itemsOf _ value).bind fun _ => wellTold_pure _

/-- The filter that takes the last item does the same. -/
theorem wellTold_last : WellTold (last arguments value) :=
  (wellTold_itemsOf _ value).bind fun _ => wellTold_pure _

/-- The filter that quotes fails over nothing but its value. -/
theorem wellTold_quote : WellTold (quote arguments value) := by
  unfold quote
  split <;> simp

/-- The filter that puts an underscore before a leading number fails over nothing but its value. -/
theorem wellTold_escapeLeadingDigit : WellTold (escapeLeadingDigit arguments value) := by
  unfold escapeLeadingDigit
  split <;> simp

end

/-- Every filter that is spelled out tells its faults well, for all arguments and values. The proof
goes through the table entry by entry. -/
theorem wellTold_table :
    ∀ entry ∈ table, ∀ arguments value, WellTold (entry.2 arguments value) := by
  simp only [table, List.forall_mem_cons]
  refine ⟨?upper, ?lower, ?trim, ?capitalize, wellTold_replace, ?encode, wellTold_length,
    wellTold_first, wellTold_last, wellTold_join, wellTold_sort, wellTold_quote,
    wellTold_escapeLeadingDigit, ?font, ?color, ?image, List.forall_mem_nil _⟩
  case upper | lower | trim | capitalize => exact wellTold_onText _ _
  case encode => exact fun _ _ => wellTold_ok _
  case font | color | image => exact wellTold_avoidReserved _ _

/-- A filter has a name, and so has what its faults say was called. One of the table is looked at
entry by entry. One of the engine fails in its own words, which name nothing that the template
called. -/
theorem wellTold_of_find [Engine] {name : String} {filter : FilterFunction}
    (h : find name = .ok filter) :
    IsName name ∧ ∀ arguments value, WellTold (filter arguments value) := by
  unfold find at h
  split at h
  case h_1 found _ hfound =>
    cases h
    have hmem := Keyed.mem_of_lookup hfound
    have hnames : ∀ entry ∈ table, IsName entry.1 := by decide
    exact ⟨hnames _ hmem, wellTold_table _ hmem⟩
  case h_2 found _ hfound =>
    cases h
    exact ⟨Engine.isName_of_filter hfound, fun _ _ => wellTold_told _⟩
  case h_3 => cases h

/-- So does every filter that a name leads to, in the table or in the engine, and a name that leads
nowhere is reported as it is written. -/
theorem wellTold_find [Engine] (name : String) : WellTold (find name) := by
  unfold find
  split
  · exact wellTold_ok _
  · exact wellTold_ok _
  · exact wellTold_error_iff.2 trivial

end FilterFunction

namespace TestFunction

/-- A test with too many arguments is reported by its name. -/
theorem wellTold_checkCount (name : String) (greatest : Nat) (arguments : List Value) :
    WellTold (checkCount name greatest arguments) := by
  unfold checkCount
  repeat' split
  all_goals first | exact wellTold_ok _ | exact wellTold_error_iff.2 trivial

/-- A test that needs a value reports a variable that has none by the name of the test. -/
theorem wellTold_defined (name : String) (found : Option Value) :
    WellTold (defined name found) := by
  unfold defined
  split
  · exact wellTold_ok _
  · exact wellTold_error_iff.2 trivial

/-- A value that should be a text is reported by the name of the test and the part that the value
plays in it. -/
theorem wellTold_textOf (name role : String) (value : Option Value) :
    WellTold (textOf name role value) := by
  unfold textOf
  split
  · exact wellTold_ok _
  · exact wellTold_error_iff.2 trivial

/-- A value that should be a number is reported in the same way. -/
theorem wellTold_numberOf (name role : String) (value : Option Value) :
    WellTold (numberOf name role value) := by
  unfold numberOf
  split
  · exact wellTold_ok _
  · exact wellTold_error_iff.2 trivial

/-- The tests for a kind of value fail over their arguments and over a missing value only. -/
theorem wellTold_ofKind (name : String) (belongs : Value → Bool) (arguments : List Value)
    (found : Option Value) : WellTold (ofKind name belongs arguments found) :=
  (wellTold_checkCount _ _ arguments).bind fun _ =>
    (wellTold_defined _ found).bind fun _ => wellTold_pure _

/-- The tests for a property of numbers fail over a value that is no number besides. -/
theorem wellTold_ofNumber (name : String) (holds : Binary64 → Bool) (arguments : List Value)
    (found : Option Value) : WellTold (ofNumber name holds arguments found) :=
  (wellTold_checkCount _ _ arguments).bind fun _ =>
    (wellTold_map_iff.2 (wellTold_defined _ found)).bind fun _ =>
      (wellTold_numberOf _ _ found).bind fun _ => wellTold_pure _

/-- The tests that compare two texts fail if one of the two is missing or no text. -/
theorem wellTold_ofText (name : String) (holds : List Char → List Char → Bool)
    (arguments : List Value) (found : Option Value) :
    WellTold (ofText name holds arguments found) :=
  (wellTold_checkCount _ _ arguments).bind fun _ =>
    (wellTold_map_iff.2 (wellTold_defined _ found)).bind fun _ =>
      (wellTold_textOf _ _ found).bind fun _ =>
        (wellTold_textOf _ _ arguments.head?).bind fun _ => wellTold_pure _

section
variable (arguments : List Value) (found : Option Value)

/-- The test of divisibility fails if one of its two numbers is missing, or no number. -/
theorem wellTold_divisible : WellTold (divisible arguments found) :=
  (wellTold_checkCount _ _ arguments).bind fun _ =>
    (wellTold_map_iff.2 (wellTold_defined _ found)).bind fun _ =>
      (wellTold_numberOf _ _ found).bind fun _ =>
        (wellTold_numberOf _ _ arguments.head?).bind fun _ => wellTold_pure _

/-- The test of containment fails over a container that can hold nothing. -/
theorem wellTold_containing : WellTold (containing arguments found) := by
  refine (wellTold_checkCount _ _ arguments).bind fun _ =>
    (wellTold_defined _ found).bind fun value => ?_
  split
  · exact (wellTold_textOf _ _ arguments.head?).bind fun _ => wellTold_pure _
  · exact wellTold_pure _
  · exact (wellTold_textOf _ _ arguments.head?).bind fun _ => wellTold_pure _
  · exact wellTold_error_iff.2 trivial

end

/-- Every test that is spelled out tells its faults well, for all arguments and values. -/
theorem wellTold_table :
    ∀ entry ∈ table, ∀ arguments found, WellTold (entry.2 arguments found) := by
  simp only [table, List.forall_mem_cons]
  refine ⟨?defined, ?undefined, wellTold_ofKind _ _, wellTold_ofKind _ _, wellTold_ofKind _ _,
    wellTold_ofKind _ _, wellTold_ofNumber _ _, wellTold_ofNumber _ _, wellTold_divisible,
    wellTold_ofText _ _, wellTold_ofText _ _, wellTold_containing, List.forall_mem_nil _⟩
  case defined | undefined =>
    exact fun arguments _ => (wellTold_checkCount _ _ arguments).bind fun _ => wellTold_pure _

/-- A test has a name, and so has what its faults say was called. The cases are the same as for
filters. -/
theorem wellTold_of_find [Engine] {name : String} {test : TestFunction} (h : find name = .ok test) :
    IsName name ∧ ∀ arguments found, WellTold (test arguments found) := by
  unfold find at h
  split at h
  case h_1 found _ hfound =>
    cases h
    have hmem := Keyed.mem_of_lookup hfound
    have hnames : ∀ entry ∈ table, IsName entry.1 := by decide
    exact ⟨hnames _ hmem, wellTold_table _ hmem⟩
  case h_2 found _ hfound =>
    cases h
    exact ⟨Engine.isName_of_test hfound, fun _ _ => wellTold_told _⟩
  case h_3 => cases h

/-- So does every test that a name leads to, in the table or in the engine. -/
theorem wellTold_find [Engine] (name : String) : WellTold (find name) := by
  unfold find
  split
  · exact wellTold_ok _
  · exact wellTold_ok _
  · exact wellTold_error_iff.2 trivial

end TestFunction

end Template

end DesignTokens

import DesignTokens.Template.Fault
import DesignTokens.Template.Lexical
import DesignTokens.Value.Basic

/-!
# The engine

The template language comes with more filters and tests than are spelled out here, and with
functions such as `now`, `get_random`, `get_env`, `range` and `throw`. An `Engine` stands for all
of these: what they answer is not known, only that each answer is a value or a complaint. Two runs
of the program may have different engines, since the clock, chance and the environment take part in
some answers; within one run a function answers equal arguments alike.
-/

set_option autoImplicit false

namespace DesignTokens.Template

/-- The filters, tests and functions of the template language that are not spelled out. A filter or
a test that is spelled out comes before one of the same name here. -/
class Engine where
  filters : List (String × (Members → Value → Except Complaint Value))
  tests : List (String × (List Value → Option Value → Except Complaint Bool))
  functions : List (String × (Members → Except Complaint Value))
  /-- A template can write all the names. -/
  named : ∀ name ∈ filters.map (·.1) ++ (tests.map (·.1) ++ functions.map (·.1)), IsName name

namespace Engine

/-- The engine that has nothing else. -/
scoped instance plain : Engine where
  filters := []
  tests := []
  functions := []
  named := by simp

/-- The function of a name, which fails in its own words. -/
def findFunction [Engine] (name : String) :
    Except TemplateFault (Members → Except TemplateFault Value) :=
  match functions.lookup name with
  | some function => .ok fun arguments => (function arguments).mapError .told
  | none => .error (.unknownFunction name)

end Engine

end DesignTokens.Template

import ScenarioSteps.Step.Kind

/-!
# `ScenarioSteps.Script.Step`: what a script holds

A script yields the title of its feature, its steps in the order of the
document, and the rows of its example tables. A step knows where it stands
and keeps the doc string and the table that are attached to it.
-/

set_option autoImplicit false

namespace ScenarioSteps

/-- A text of several lines that is attached to a step. -/
structure DocString where
  /-- What stands behind the opening fence. -/
  mediaType? : Option String
  /-- The lines between the fences, without the indentation of the first. -/
  content : String
deriving Repr, DecidableEq

/-- The rows of a table, each a list of trimmed cells. -/
abbrev Table :=
  List (List String)

/-- A step of a script. -/
structure ScriptStep where
  kind : StepKind
  keyword : Keyword
  /-- The sentence behind the keyword. -/
  text : String
  /-- The whole line, trimmed. -/
  written : String
  /-- The number of the line, from one. -/
  line : Nat
  /-- The title of the scenario or background around the step. -/
  scenario? : Option String := none
  /-- Whether the step stands in a background. -/
  background : Bool := false
  docString? : Option DocString := none
  table? : Option Table := none
deriving Repr, DecidableEq

/-- A step outside of any scenario, with nothing attached. -/
def ScriptStep.bare (kind : StepKind) (keyword : Keyword) (text : String) (line : Nat) :
    ScriptStep :=
  { kind, keyword, text, written := keyword.text ++ " " ++ text, line }

/-- All that is extracted from a script. -/
structure Script where
  feature? : Option String
  steps : List ScriptStep
  /-- The rows of all example tables, their headers included. -/
  exampleRows : Table
deriving Repr, DecidableEq

end ScenarioSteps

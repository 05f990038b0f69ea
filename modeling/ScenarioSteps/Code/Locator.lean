import ScenarioSteps.Code.Fragment
import ScenarioSteps.Options

/-!
# `ScenarioSteps.Code.Locator`: finding an element on the screen

An element is found by its role and name, by its label, by its visible text or
by a selector. In a browser the query goes to the page. In a mounted component
it goes to the screen, where a selector is a test identifier.
-/

set_option autoImplicit false

namespace ScenarioSteps.Locator

/-- An element by role and accessible name. -/
def byRole (target : ExecutionTarget) (role name : String) : Code :=
  let root :=
    match target with
    | .playwright => "page"
    | .componentMount => "screen"
  Code.fixed root ++ ".getByRole(" ++ Code.quoted role ++ ", "
    ++ Code.object [("name", Code.quoted name)] ++ ")"

/-- A form control by its label. -/
def byLabel (target : ExecutionTarget) (label : String) : Code :=
  match target with
  | .playwright => "page.getByLabel(" ++ Code.quoted label ++ ")"
  | .componentMount => "screen.getByLabelText(" ++ Code.quoted label ++ ")"

/-- An element by its visible text. -/
def byText (target : ExecutionTarget) (text : String) : Code :=
  match target with
  | .playwright => "page.getByText(" ++ Code.quoted text ++ ")"
  | .componentMount => "screen.getByText(" ++ Code.quoted text ++ ")"

/-- An element by selector. -/
def bySelector (target : ExecutionTarget) (selector : String) : Code :=
  match target with
  | .playwright => "page.locator(" ++ Code.quoted selector ++ ")"
  | .componentMount => "screen.getByTestId(" ++ Code.quoted selector ++ ")"

end ScenarioSteps.Locator

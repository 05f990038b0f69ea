import ScenarioSteps.Catalog.Sentence

/-!
# `ScenarioSteps.Catalog.Interaction`: clicks, forms and what is on screen

The clicks on buttons and links stand before the click on any element, so that
they win where a sentence fits both.
-/

set_option autoImplicit false

namespace ScenarioSteps.Interaction

/-- Clicks on what a locator finds. -/
def click (target : ExecutionTarget) (locator : Code) : Code :=
  match target with
  | .playwright => "await " ++ locator ++ ".click();"
  | .componentMount => "await fireEvent.click(" ++ locator ++ ");"

/-- Clicks the button with the captured name. -/
def clickButton : CodeGenerator := fun target => do
  pure (click target (Locator.byRole target "button" (← Captures.text 0)))

/-- Clicks the link with the captured name. -/
def clickLink : CodeGenerator := fun target => do
  pure (click target (Locator.byRole target "link" (← Captures.text 0)))

/-- Clicks whatever the captured selector finds. -/
def clickElement : CodeGenerator := fun target => do
  pure (click target (Locator.bySelector target (← Captures.text 0)))

/-- Types a value into a labelled field. -/
def fill (target : ExecutionTarget) (label value : String) : Code :=
  let field := Locator.byLabel target label
  match target with
  | .playwright => "await " ++ field ++ ".fill(" ++ Code.quoted value ++ ");"
  | .componentMount => "await fireEvent.update(" ++ field ++ ", " ++ Code.quoted value ++ ");"

/-- The value comes first in the sentence, and the label second. -/
def fillField : CodeGenerator := fun target => do
  let label ← Captures.text 1
  let value ← Captures.text 0
  pure (fill target label value)

/-- The label comes first in the sentence, and the value second. -/
def fillFieldWith : CodeGenerator := fun target => do
  let label ← Captures.text 0
  let value ← Captures.text 1
  pure (fill target label value)

/-- Chooses an option of a labelled list. The option comes first in the sentence. -/
def selectOption : CodeGenerator := fun target => do
  let field := Locator.byLabel target (← Captures.text 1)
  let option := Code.quoted (← Captures.text 0)
  match target with
  | .playwright => pure ("await " ++ field ++ ".selectOption(" ++ option ++ ");")
  | .componentMount => pure ("await fireEvent.update(" ++ field ++ ", " ++ option ++ ");")

/-- Unchecks only if the verb is `uncheck` up to the case of ASCII letters. -/
def toggleCheckbox : CodeGenerator := fun target => do
  let checked := !Text.sameAscii (← Captures.text 0) "uncheck"
  let field := Locator.byLabel target (← Captures.text 1)
  match target with
  | .playwright =>
    let method := if checked then "check" else "uncheck"
    pure ("await " ++ field ++ "." ++ Code.fixed method ++ "();")
  | .componentMount =>
    pure ("const checkbox = " ++ field ++ ";\nif (checkbox.checked !== "
      ++ Code.fixed (toString checked)
      ++ ") \x7b\n  await fireEvent.click(checkbox);\n\x7d")

/-- Presses the captured key, in a mounted component on the element that has the focus. -/
def pressKey : CodeGenerator :=
  .ofFirst
    (fun key => "await page.keyboard.press(" ++ Code.quoted key ++ ");")
    (fun key =>
      "await fireEvent.keyDown(document.activeElement ?? document.body, "
        ++ Code.object [("key", Code.quoted key)] ++ ");")

/-- Moves the mouse over the element with the captured text. -/
def hover : CodeGenerator := fun target => do
  let locator := Locator.byText target (← Captures.text 0)
  match target with
  | .playwright => pure ("await " ++ locator ++ ".hover();")
  | .componentMount => pure ("await fireEvent.mouseOver(" ++ locator ++ ");")

/-- Looks for a text on screen, or for none of it if the first group took part. -/
def seeText : CodeGenerator := fun target => do
  let negated ← Captures.present 0
  let text := Code.quoted (← Captures.text 1)
  match target, negated with
  | .playwright, false => pure ("await expect(page.getByText(" ++ text ++ ")).toBeVisible();")
  | .playwright, true => pure ("await expect(page.getByText(" ++ text ++ ")).toHaveCount(0);")
  | .componentMount, false => pure ("expect(screen.getByText(" ++ text ++ ")).toBeTruthy();")
  | .componentMount, true => pure ("expect(screen.queryByText(" ++ text ++ ")).toBeNull();")

/-- Looks for an element, or for none if the group behind it took part. -/
def elementVisible : CodeGenerator := fun target => do
  let negated ← Captures.present 1
  let selector := Code.quoted (← Captures.text 0)
  match target, negated with
  | .playwright, false => pure ("await expect(page.locator(" ++ selector ++ ")).toBeVisible();")
  | .playwright, true => pure ("await expect(page.locator(" ++ selector ++ ")).toBeHidden();")
  | .componentMount, false =>
    pure ("expect(screen.getByTestId(" ++ selector ++ ")).toBeTruthy();")
  | .componentMount, true =>
    pure ("expect(screen.queryByTestId(" ++ selector ++ ")).toBeNull();")

/-- Compares the value of a labelled field. -/
def fieldValue : CodeGenerator := fun target => do
  let field := Locator.byLabel target (← Captures.text 0)
  let value := Code.quoted (← Captures.text 1)
  match target with
  | .playwright => pure ("await expect(" ++ field ++ ").toHaveValue(" ++ value ++ ");")
  | .componentMount => pure ("expect(" ++ field ++ ".value).toBe(" ++ value ++ ");")

/-- Expects a disabled button only if the word is `disabled` up to the case of ASCII letters.
-/
def buttonState : CodeGenerator := fun target => do
  let button := Locator.byRole target "button" (← Captures.text 0)
  let disabled := Text.sameAscii (← Captures.text 1) "disabled"
  match target with
  | .playwright =>
    let matcher := if disabled then "toBeDisabled" else "toBeEnabled"
    pure ("await expect(" ++ button ++ ")." ++ Code.fixed matcher ++ "();")
  | .componentMount =>
    pure ("expect(" ++ button ++ ".disabled).toBe(" ++ Code.fixed (toString disabled) ++ ");")

/-- The patterns in order of priority. -/
def patterns : List (String × StepPattern) :=
  [("interaction/click-button",
    { source := "I click (?:on )?the \"([^\"]*)\" button"
      kind := .action
      generator := clickButton.toGenerator
      arity := 1
      tags := ["interaction", "click", "button"]
      description := "Click a button by its accessible name"
      sample? := some "I click the \"Submit\" button" }),
   ("interaction/click-link",
    { source := "I click (?:on )?the \"([^\"]*)\" link"
      kind := .action
      generator := clickLink.toGenerator
      arity := 1
      tags := ["interaction", "click", "link"]
      description := "Click a link by its accessible name"
      sample? := some "I click the \"Home\" link" }),
   ("interaction/click-element",
    { source := "I click (?:on )?(?:the )?\"([^\"]*)\"(?: element)?"
      kind := .action
      generator := clickElement.toGenerator
      arity := 1
      tags := ["interaction", "click", "element"]
      description := "Click an element by selector or test id"
      sample? := some "I click on \"menu-toggle\"" }),
   ("interaction/fill-field",
    { source :=
        "I (?:fill in|fill|enter|type) \"([^\"]*)\" (?:in|into|for) (?:the )?\"([^\"]*)\"(?: field)?"
      kind := .action
      generator := fillField.toGenerator
      arity := 2
      tags := ["interaction", "form", "input"]
      description := "Type a value into a labelled form field"
      sample? := some "I enter \"a@b.com\" into the \"Email\" field" }),
   ("interaction/fill-field-with",
    { source := "I fill in (?:the )?\"([^\"]*)\"(?: field)? with \"([^\"]*)\""
      kind := .action
      generator := fillFieldWith.toGenerator
      arity := 2
      tags := ["interaction", "form", "input"]
      description := "Fill a labelled form field with a value"
      sample? := some "I fill in the \"Email\" field with \"a@b.com\"" }),
   ("interaction/select-option",
    { source := "I select \"([^\"]*)\" from (?:the )?\"([^\"]*)\"(?: dropdown| select)?"
      kind := .action
      generator := selectOption.toGenerator
      arity := 2
      tags := ["interaction", "form", "select"]
      description := "Choose an option from a labelled select"
      sample? := some "I select \"Canada\" from the \"Country\" dropdown" }),
   ("interaction/toggle-checkbox",
    { source := "I (check|uncheck) (?:the )?\"([^\"]*)\"(?: checkbox)?"
      kind := .action
      generator := toggleCheckbox.toGenerator
      arity := 2
      tags := ["interaction", "form", "checkbox"]
      description := "Check or uncheck a labelled checkbox"
      sample? := some "I check the \"Remember me\" checkbox" }),
   ("interaction/press-key",
    { source := "I press (?:the )?\"([^\"]*)\" key"
      kind := .action
      generator := pressKey.toGenerator
      arity := 1
      tags := ["interaction", "keyboard"]
      description := "Press a keyboard key"
      sample? := some "I press the \"Enter\" key" }),
   ("interaction/hover",
    { source := "I hover over (?:the )?\"([^\"]*)\""
      kind := .action
      generator := hover.toGenerator
      arity := 1
      tags := ["interaction", "mouse"]
      description := "Hover over an element by visible text"
      sample? := some "I hover over the \"Account\" menu" }),
   ("interaction/see-text",
    { source := "I should (not )?see \"([^\"]*)\""
      kind := .assertion
      generator := seeText.toGenerator
      arity := 2
      tags := ["interaction", "text", "visibility"]
      description := "Assert that text is or is not on screen"
      sample? := some "I should see \"Welcome back\"" }),
   ("interaction/element-visible",
    { source := "the \"([^\"]*)\" (?:element )?should (not )?be visible"
      kind := .assertion
      generator := elementVisible.toGenerator
      arity := 2
      tags := ["interaction", "element", "visibility"]
      description := "Assert that an element is or is not visible"
      sample? := some "the \"spinner\" element should not be visible" }),
   ("interaction/field-value",
    { source := "the \"([^\"]*)\" field should (?:contain|have value) \"([^\"]*)\""
      kind := .assertion
      generator := fieldValue.toGenerator
      arity := 2
      tags := ["interaction", "form", "input"]
      description := "Assert the value of a labelled form field"
      sample? := some "the \"Email\" field should contain \"a@b.com\"" }),
   ("interaction/button-state",
    { source := "the \"([^\"]*)\" button should be (enabled|disabled)"
      kind := .assertion
      generator := buttonState.toGenerator
      arity := 2
      tags := ["interaction", "button", "state"]
      description := "Assert that a button is enabled or disabled"
      sample? := some "the \"Save\" button should be disabled" })]

end ScenarioSteps.Interaction

import ScenarioSteps.Code.Locator
import ScenarioSteps.Code.Value
import ScenarioSteps.Pattern.Basic

/-!
# `ScenarioSteps.Catalog.Sentence`: generators of the catalog

All patterns of the catalog generate code by fragments. Such a generator
cannot break down: it reads the captures and answers a fragment, in the idiom
of the execution target. The output target never reaches it.
-/

set_option autoImplicit false

namespace ScenarioSteps

/-- A generator that answers a fragment of code. -/
abbrev CodeGenerator :=
  ExecutionTarget → StateM Captures Code

/-- The generator that renders the fragment. -/
def CodeGenerator.toGenerator (generate : CodeGenerator) : Generator := fun options => do
  pure (.body (← generate options.execution).render)

/-- A fragment for each idiom, for a sentence without captures. -/
def CodeGenerator.constant (browser mounted : String) : CodeGenerator := fun target =>
  match target with
  | .playwright => pure browser
  | .componentMount => pure mounted

/-- A fragment for each idiom that depends on the first capture only. -/
def CodeGenerator.ofFirst (browser mounted : String → Code) : CodeGenerator := fun target => do
  let first ← Captures.text 0
  match target with
  | .playwright => pure (browser first)
  | .componentMount => pure (mounted first)

end ScenarioSteps

import ScenarioSteps.Fault
import ScenarioSteps.Text.Blank

/-!
# `ScenarioSteps.Options`: the choices of generation

Two independent choices shape generated code. The *output target* is the
syntax that a declaration is wrapped in. The *execution target* is the idiom
of its body. A third choice, the *conjunction policy*, says how `And`, `But`
and `*` steps get their kind.

Each choice is a closed type that is read from a name once. Names are trimmed
and compared without regard to the case of ASCII letters; every choice has
one canonical name and some have more names that are read.
-/

set_option autoImplicit false

namespace ScenarioSteps

/-- The syntax of a declaration. -/
inductive OutputTarget where
  /-- `Given(/^text$/, async function () ...` -/
  | cucumber
  /-- `await test.step("Given text", async () => ...` -/
  | playwrightBdd
  /-- A block behind a comment. -/
  | generic
deriving Repr, DecidableEq

/-- The idiom of a body. -/
inductive ExecutionTarget where
  /-- A browser, driven through its page. -/
  | playwright
  /-- A component, mounted in the process of the test. -/
  | componentMount
deriving Repr, DecidableEq

/-- How a conjunction gets its kind. -/
inductive ConjunctionPolicy where
  /-- From the latest step that names its kind, in the same scenario. -/
  | inherit
  /-- It is always a `When`. -/
  | alwaysWhen
deriving Repr, DecidableEq

/-- A name as it is compared: without blanks around it, in small letters. -/
def optionName (name : String) : String :=
  String.ofList ((Text.trim name.toList).map Char.toLower)

/-- Reads a name from a table of names; the fault reports it as it was given. -/
def readOption {α : Type} (axis : OptionAxis) (table : List (String × α)) (name : String) :
    Except Fault α :=
  match table.lookup (optionName name) with
  | some choice => .ok choice
  | none => .error { cause := .unknownOption axis name }

namespace OutputTarget

/-- The canonical name. -/
def name : OutputTarget → String
  | .cucumber => "cucumber"
  | .playwrightBdd => "playwright-bdd"
  | .generic => "generic"

/-- All names that are read. -/
def names : List (String × OutputTarget) :=
  [("cucumber", .cucumber), ("cucumber-js", .cucumber), ("playwright-bdd", .playwrightBdd),
   ("test-step", .playwrightBdd), ("generic", .generic), ("plain", .generic)]

/-- Reads an output target from its name. -/
def read (name : String) : Except Fault OutputTarget :=
  readOption .outputTarget names name

end OutputTarget

namespace ExecutionTarget

/-- The canonical name. -/
def name : ExecutionTarget → String
  | .playwright => "playwright"
  | .componentMount => "component-mount"

/-- All names that are read. -/
def names : List (String × ExecutionTarget) :=
  [("playwright", .playwright), ("browser", .playwright), ("component-mount", .componentMount),
   ("component", .componentMount), ("testing-library", .componentMount)]

/-- Reads an execution target from its name. -/
def read (name : String) : Except Fault ExecutionTarget :=
  readOption .executionTarget names name

end ExecutionTarget

namespace ConjunctionPolicy

/-- All names that are read. -/
def names : List (String × ConjunctionPolicy) :=
  [("inherit", .inherit), ("always-when", .alwaysWhen), ("when", .alwaysWhen)]

/-- Reads a conjunction policy from its name. -/
def read (name : String) : Except Fault ConjunctionPolicy :=
  readOption .conjunctions names name

end ConjunctionPolicy

/-- The two targets of generation. -/
structure Options where
  output : OutputTarget := .generic
  execution : ExecutionTarget := .playwright
deriving Repr, DecidableEq

/-- Reads the targets from optional names, the output target first. -/
def Options.read (output execution : Option String) : Except Fault Options := do
  let output ← output.elim (pure .generic) OutputTarget.read
  let execution ← execution.elim (pure .playwright) ExecutionTarget.read
  pure { output, execution }

end ScenarioSteps

import ScenarioSteps.Declaration.Step
import ScenarioSteps.File.Header

/-!
# `ScenarioSteps.File.Assemble`: a whole file of declarations

A file is a header and the declarations of all steps of a script. On request,
a sentence that was already declared is left out, and declarations are grouped
by kind.

For the target `playwright-bdd`, neighbouring steps of one scenario form a
block of their own, a test that has the title of the scenario or, for a
background, a hook that runs before each test. Leaving out and grouping then
happen within each block.
-/

set_option autoImplicit false

namespace ScenarioSteps

/-- How a file is put together. -/
structure Layout where
  /-- First all `Given`, then all `When`, then all `Then`. -/
  groupByKind : Bool := false
  /-- Only the first of the steps with the same sentence. -/
  deduplicate : Bool := false
  conjunctions : ConjunctionPolicy := .inherit
deriving Repr, DecidableEq

/-- The first of the steps with each sentence. `seen` holds the sentences before. -/
def firstOfEach (seen : List String) : List ScriptStep → List ScriptStep
  | [] => []
  | step :: rest =>
    if seen.contains step.text then firstOfEach seen rest
    else step :: firstOfEach (step.text :: seen) rest

/-- The steps of each kind in the order of kinds. -/
def byKind (steps : List ScriptStep) : List ScriptStep :=
  StepKind.all.flatMap fun kind => steps.filter (·.kind == kind)

/-- The steps that a layout declares, in its order. -/
def Layout.arrange (layout : Layout) (steps : List ScriptStep) : List ScriptStep :=
  let steps := if layout.deduplicate then firstOfEach [] steps else steps
  if layout.groupByKind then byKind steps else steps

/-- Neighbouring steps of one scenario. -/
structure Block where
  scenario? : Option String
  background : Bool
  steps : List ScriptStep
deriving Repr, DecidableEq

namespace Block

/-- Whether a step belongs to the scenario of a block. -/
def accepts (b : Block) (step : ScriptStep) : Bool :=
  b.scenario? == step.scenario? && b.background == step.background

/-- Puts a step in front of blocks, into the first one if it belongs there. -/
def cons (step : ScriptStep) : List Block → List Block
  | [] => [⟨step.scenario?, step.background, [step]⟩]
  | b :: rest =>
    if b.accepts step then { b with steps := step :: b.steps } :: rest
    else ⟨step.scenario?, step.background, [step]⟩ :: b :: rest

/-- Splits steps into blocks that are as long as possible. -/
def ofSteps (steps : List ScriptStep) : List Block :=
  steps.foldr cons []

/-- The first line of a block. A block without a scenario has the title
`fallback`. -/
def opening (fallback : String) (b : Block) : String :=
  if b.background then "test.beforeEach(async (\x7b page \x7d) => \x7b"
  else
    "test(" ++ Literal.quoted (b.scenario?.getD fallback) ++ ", async (\x7b page \x7d) => \x7b"

end Block

namespace Registry

/-- The text of a block. -/
def blockText (r : Registry) (layout : Layout) (options : Options) (fallback : String)
    (b : Block) : String :=
  let declarations := (layout.arrange b.steps).map fun step =>
    indent bodyIndent (r.declareStep options step)
  b.opening fallback ++ "\n" ++ "\n".intercalate declarations ++ "\x7d);\n"

/-- The file for a script with a given name. -/
def assemble (r : Registry) (layout : Layout) (options : Options) (filename script : String) :
    String :=
  let script := Script.extract layout.conjunctions script
  let header := fileHeader filename script.feature? options
  match options.output with
  | .playwrightBdd =>
    -- Blocks are arranged one by one, so no step leaves its own.
    let fallback := script.feature?.getD filename
    let blocks := (Block.ofSteps script.steps).map (r.blockText layout options fallback)
    header ++ "\n".intercalate blocks
  | .cucumber | .generic =>
    let declarations := (layout.arrange script.steps).map fun step =>
      "\n" ++ r.declareStep options step ++ "\n"
    header ++ String.join declarations

end Registry

end ScenarioSteps

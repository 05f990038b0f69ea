import ScenarioSteps.Pattern.Captures
import ScenarioSteps.Step.Kind
import ScenarioSteps.Text.Blank

/-!
# `ScenarioSteps.Pattern.Basic`: patterns of step sentences

A pattern pairs one way of phrasing a step with the generator for its code.
It carries what listings and searches show: tags, a description, and perhaps
a sentence that it must match.
-/

set_option autoImplicit false

namespace ScenarioSteps

/-- One way of phrasing a step. -/
structure StepPattern where
  /-- The regular expression, which ignores case. -/
  source : String
  kind : PatternKind
  generator : Generator
  /-- The number of groups that the generator reads. -/
  arity : Nat := 0
  tags : List String := []
  description : String := ""
  sample? : Option String := none

namespace StepPattern

/-- Adds tags, each at most once. -/
def addTags (p : StepPattern) (tags : List String) : StepPattern :=
  let add := fun (kept : List String) tag => if kept.contains tag then kept else kept ++ [tag]
  { p with tags := tags.foldl add p.tags }

/-- Whether a pattern carries a tag, up to the case of ASCII letters. -/
def hasTag (p : StepPattern) (tag : String) : Bool :=
  p.tags.any (Text.sameAscii · tag)

end StepPattern

end ScenarioSteps

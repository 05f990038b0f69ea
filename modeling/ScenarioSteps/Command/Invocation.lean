import ScenarioSteps.Settings

/-!
# `ScenarioSteps.Command.Invocation`: what a command line asks for

A command line names one command and may override the settings of the
project. `Invocation.resolve` is the rule of precedence: a target or a policy
that the command line names wins over the settings file, and the two layout
flags of `generate` can only switch something on.
-/

set_option autoImplicit false

namespace ScenarioSteps

/-- The commands. -/
inductive Command where
  /-- Declares all steps of a script, in a file or on the console. -/
  | generate (script : String) (output? : Option String) (groupByKind deduplicate : Bool)
  /-- Declares one step. -/
  | step (text : String)
  /-- Lists the patterns, or those with a tag. -/
  | list (json : Bool) (tag? : Option String)
  /-- Ranks the patterns that mention a query. -/
  | search (query : String) (json : Bool)
deriving Repr, DecidableEq

/-- A command, and the settings that the command line names itself. -/
structure Invocation where
  settings? : Option String := none
  output? : Option OutputTarget := none
  execution? : Option ExecutionTarget := none
  conjunctions? : Option ConjunctionPolicy := none
  command : Command
deriving Repr, DecidableEq

namespace Invocation

/-- The layout flags of the command: grouping and leaving out. -/
def layoutFlags (inv : Invocation) : Bool × Bool :=
  match inv.command with
  | .generate _ _ groupByKind deduplicate => (groupByKind, deduplicate)
  | _ => (false, false)

/-- The settings that hold for an invocation, given those of the project. -/
def resolve (inv : Invocation) (s : Settings) : Settings :=
  let (groupByKind, deduplicate) := inv.layoutFlags
  { options :=
      { output := inv.output?.getD s.options.output
        execution := inv.execution?.getD s.options.execution }
    layout :=
      { groupByKind := s.layout.groupByKind || groupByKind
        deduplicate := s.layout.deduplicate || deduplicate
        conjunctions := inv.conjunctions?.getD s.layout.conjunctions } }

end Invocation

end ScenarioSteps

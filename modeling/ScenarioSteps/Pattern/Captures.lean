import ScenarioSteps.Options

/-!
# `ScenarioSteps.Pattern.Captures`: what a generator reads, and what it yields

A generator turns the texts of a pattern's groups into a body of code. It
reads the groups by index from zero. A group that took no part in the match
reads as missing. Reading an index that the pattern does not have yields
nothing too and is remembered, so a generator that disagrees with its pattern
can be told apart from one that meets an optional group.
-/

set_option autoImplicit false

namespace ScenarioSteps

/-- The texts of a match's groups. -/
structure Captures where
  values : List (Option String)
  /-- Whether an index past the last group has been read. -/
  overread : Bool := false
deriving Repr, DecidableEq

namespace Captures

/-- The text of a group, unless it took no part in the match. -/
def get (index : Nat) : StateM Captures (Option String) := do
  let captures ← MonadState.get
  match captures.values[index]? with
  | some value => pure value
  | none =>
    set { captures with overread := true }
    pure none

/-- The text of a group, empty if it took no part in the match. -/
def text (index : Nat) : StateM Captures String := do
  pure ((← get index).getD "")

/-- Whether a group took part in the match. -/
def present (index : Nat) : StateM Captures Bool := do
  pure (← get index).isSome

end Captures

/-- How a run of a generator ends. -/
inductive Outcome where
  | body (text : String)
  /-- It broke down, with a reason if one is known. -/
  | broken (reason? : Option String)
deriving Repr, DecidableEq

/-- Turns captures into a body of code, in the idiom that the options ask for. -/
abbrev Generator :=
  Options → StateM Captures Outcome

/-- What a generator makes of the captures of a match. -/
def Generator.run (generator : Generator) (options : Options) (values : List (Option String)) :
    Outcome × Captures :=
  generator options { values }

end ScenarioSteps

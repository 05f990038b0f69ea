/-!
# `ScenarioSteps.Regex.Storage.Tally`: counting states

What an automaton takes up: each of its states, each alternative of a state
that chooses, and each transition of a state that looks at a byte.
-/

set_option autoImplicit false

namespace ScenarioSteps.Regex

/-- The parts of an automaton that is being built. -/
structure Tally where
  states : Nat := 0
  alternatives : Nat := 0
  transitions : Nat := 0
deriving Repr, DecidableEq

namespace Tally

/-- The number of bytes that an automaton takes up. -/
def bytes (t : Tally) : Nat :=
  32 * t.states + 4 * t.alternatives + 8 * t.transitions

/-- Adds the parts of two automata. -/
def add (a b : Tally) : Tally :=
  ⟨a.states + b.states, a.alternatives + b.alternatives, a.transitions + b.transitions⟩

/-- Adds states that neither choose nor look at a table of bytes. -/
def addStates (t : Tally) (n : Nat) : Tally :=
  { t with states := t.states + n }

/-- Adds a state that chooses between `n` others. -/
def addChoice (t : Tally) (n : Nat) : Tally :=
  { t with states := t.states + 1, alternatives := t.alternatives + n }

/-- Adds a state with a table of `n` intervals of bytes. -/
def addTable (t : Tally) (n : Nat) : Tally :=
  { t with states := t.states + 1, transitions := t.transitions + n }

end Tally

end ScenarioSteps.Regex

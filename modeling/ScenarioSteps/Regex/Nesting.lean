/-!
# `ScenarioSteps.Regex.Nesting`: how deep a pattern is nested

Groups, repetitions, alternatives, sequences and classes are each one level
deeper than the deepest of their items. A list with a single item is no level
of its own: it is that item.
-/

set_option autoImplicit false

namespace ScenarioSteps.Regex

/-- How deep the items of a list are nested. -/
structure Nesting where
  /-- The number of items. -/
  size : Nat := 0
  /-- The depth of the deepest item. -/
  deepest : Nat := 0
deriving Repr, DecidableEq

namespace Nesting

/-- Adds an item. -/
def add (n : Nesting) (depth : Nat) : Nesting :=
  ⟨n.size + 1, max n.deepest depth⟩

/-- The depth of the list itself. -/
def depth (n : Nesting) : Nat :=
  if 2 ≤ n.size then n.deepest + 1 else n.deepest

end Nesting

/-- Patterns that are nested deeper are refused. -/
def nestingLimit : Nat :=
  250

end ScenarioSteps.Regex

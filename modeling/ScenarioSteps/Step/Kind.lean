/-!
# `ScenarioSteps.Step.Kind`: the vocabulary of steps

A step sets up a precondition, does something, or checks an outcome
(`StepKind`). A line of a script begins with a `Keyword`, which names the kind
or, for a conjunction, leaves it to the steps before. A pattern plays one of
three roles (`PatternKind`), each of which has a step kind of its own.
-/

set_option autoImplicit false

namespace ScenarioSteps

/-- The kind of a step, in the order in which kinds are grouped. -/
inductive StepKind where
  | given
  | when
  | then
deriving Repr, DecidableEq

namespace StepKind

/-- All kinds in their conventional order. -/
def all : List StepKind :=
  [.given, .when, .then]

/-- The word that declares a step of the kind. -/
def word : StepKind → String
  | .given => "Given"
  | .when => "When"
  | .then => "Then"

/-- The place of a kind in the conventional order. -/
def rank : StepKind → Nat
  | .given => 0
  | .when => 1
  | .then => 2

/-- The kind that a word declares. -/
def ofWord? (word : String) : Option StepKind :=
  all.find? (·.word == word)

end StepKind

/-- The role of a pattern. -/
inductive PatternKind where
  | setup
  | action
  | assertion
deriving Repr, DecidableEq

namespace PatternKind

/-- The kind of step that a pattern of this role declares. -/
def stepKind : PatternKind → StepKind
  | .setup => .given
  | .action => .when
  | .assertion => .then

/-- The name of a role in listings. -/
def name : PatternKind → String
  | .setup => "setup"
  | .action => "action"
  | .assertion => "assertion"

end PatternKind

/-- The word that opens a step line. -/
inductive Keyword where
  | given
  | when
  | then
  | and
  | but
  | star
deriving Repr, DecidableEq

namespace Keyword

/-- All keywords. -/
def all : List Keyword :=
  [.given, .when, .then, .and, .but, .star]

/-- A keyword as a script writes it. Case matters. -/
def text : Keyword → String
  | .given => "Given"
  | .when => "When"
  | .then => "Then"
  | .and => "And"
  | .but => "But"
  | .star => "*"

/-- The keyword that a word spells. -/
def ofText? (word : String) : Option Keyword :=
  all.find? (·.text == word)

/-- The kind that a keyword names; a conjunction names none. -/
def kind? : Keyword → Option StepKind
  | .given => some .given
  | .when => some .when
  | .then => some .then
  | .and | .but | .star => none

/-- Whether the kind of the step depends on the steps before it. -/
def isConjunction (k : Keyword) : Bool :=
  k.kind?.isNone

end Keyword

end ScenarioSteps

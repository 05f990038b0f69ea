/-!
# `ScenarioSteps.Text.CodePoints`: tables over code points

Two forms of table describe a property of characters. A list of closed
intervals in ascending order describes a set (`within`). A list of *runs*
describes a map: every `step`-th code point from `first` to `last` moves by
`shift` (`shifted`), and all others stay where they are. Alphabets that
alternate capital and small letters are single runs of step two.

Both lists are sorted by their first code point, so a look-up stops at the
first entry that begins behind the code point in question.
-/

set_option autoImplicit false

namespace ScenarioSteps.Text

/-- Whether a code point lies in one of the intervals of an ascending list. -/
def within : List (Nat × Nat) → Nat → Bool
  | [], _ => false
  | (lo, hi) :: rest, n => if n < lo then false else n ≤ hi || within rest n

/-- Code points from `first` to `last`, `step` apart, that all move by `shift`. -/
structure Run where
  first : Nat
  last : Nat
  step : Nat
  shift : Int
deriving Repr

/-- Whether a code point is one of those that a run moves. -/
def Run.covers (r : Run) (n : Nat) : Bool :=
  r.first ≤ n && n ≤ r.last && (n - r.first) % r.step == 0

/-- Where a code point goes under an ascending list of runs. -/
def shifted : List Run → Nat → Nat
  | [], n => n
  | r :: rest, n =>
    if n < r.first then n
    else if r.covers n then (n + r.shift).toNat
    else shifted rest n

/-- The run that moves the code points back. -/
def Run.inverse (r : Run) : Run :=
  let move := fun (n : Nat) => ((n : Int) + r.shift).toNat
  ⟨move r.first, move r.last, r.step, -r.shift⟩

/-- Where the code points of an interval go that a run moves. -/
def Run.image (r : Run) (interval : Nat × Nat) : List (Nat × Nat) :=
  let move := fun (n : Nat) => ((n : Int) + r.shift).toNat
  let lo := max interval.1 r.first
  let hi := min interval.2 r.last
  if hi < lo then []
  else if r.step == 1 then [(move lo, move hi)]
  else
    let covered := ((List.range (hi + 1 - lo)).map (lo + ·)).filter r.covers
    covered.map fun n => (move n, move n)

end ScenarioSteps.Text

import ScenarioSteps.Text.Blank
import ScenarioSteps.Text.CaseFold
import ScenarioSteps.Text.WordChar

/-!
# `ScenarioSteps.Regex.CharSet`: sets of characters

What one character of a text may be at a place of a pattern. A set is the list
of its intervals of code points, in ascending order, each as long as it can
be. So each set has one form, and two sets are equal if their lists are.
Surrogate code points are no characters and belong to no interval.
-/

set_option autoImplicit false

namespace ScenarioSteps

/-- A set of characters. -/
structure CharSet where
  /-- Closed intervals of code points, in ascending order and with gaps
  between them. -/
  intervals : List (Nat × Nat)
deriving Repr, DecidableEq

namespace CharSet

/-- Membership. -/
def mem (s : CharSet) (c : Char) : Bool :=
  Text.within s.intervals c.toNat

/-- The set without characters. -/
def empty : CharSet :=
  ⟨[]⟩

/-- Whether a set has no characters. -/
def isEmpty (s : CharSet) : Bool :=
  s.intervals.isEmpty

/-- The only character of a set. -/
def single? (s : CharSet) : Option Char :=
  match s.intervals with
  | [(lo, hi)] => if lo == hi then some (Char.ofNat lo) else none
  | _ => none

/-- Whether all characters of a set are ASCII. -/
def isAscii (s : CharSet) : Bool :=
  s.intervals.all fun i => i.2 < 128

/-- The intervals of the characters among the code points from `lo` to `hi`:
surrogates are left out. -/
def scalars (lo hi : Nat) : List (Nat × Nat) :=
  [(lo, min hi 0xd7ff), (max lo 0xe000, hi)].filter fun i => i.1 ≤ i.2

/-- The characters from `lo` to `hi`. -/
def interval (lo hi : Char) : CharSet :=
  ⟨scalars lo.toNat hi.toNat⟩

/-- The set of one character. -/
def single (c : Char) : CharSet :=
  ⟨[(c.toNat, c.toNat)]⟩

/-- All characters. -/
def all : CharSet :=
  ⟨scalars 0 0x10ffff⟩

/-- Decimal digits of all scripts. -/
def digit : CharSet :=
  ⟨Text.digitRanges⟩

/-- Word characters of all scripts. -/
def word : CharSet :=
  ⟨Text.wordRanges⟩

/-- Blank characters. -/
def blank : CharSet :=
  ⟨Text.blankRanges⟩

/-- Adds an interval to an ascending list. It is joined with all intervals
that it overlaps or touches. -/
def insert (lo hi : Nat) : List (Nat × Nat) → List (Nat × Nat)
  | [] => [(lo, hi)]
  | (a, b) :: rest =>
    if hi + 1 < a then (lo, hi) :: (a, b) :: rest
    else if b + 1 < lo then (a, b) :: insert lo hi rest
    else insert (min lo a) (max hi b) rest

/-- Adds intervals to a set. -/
def addAll (s : CharSet) (intervals : List (Nat × Nat)) : CharSet :=
  ⟨intervals.foldl (fun found i => insert i.1 i.2 found) s.intervals⟩

/-- The characters of either of two sets. -/
def union (a b : CharSet) : CharSet :=
  a.addAll b.intervals

/-- The union of a list of sets. -/
def ofList (sets : List CharSet) : CharSet :=
  sets.foldl union empty

/-- The characters of both sets. -/
def inter (a b : CharSet) : CharSet :=
  ⟨a.intervals.flatMap fun i => b.intervals.filterMap fun j =>
    let lo := max i.1 j.1
    let hi := min i.2 j.2
    if lo ≤ hi then some (lo, hi) else none⟩

/-- The characters from `start` on that an ascending list leaves out. -/
def gaps (start : Nat) : List (Nat × Nat) → List (Nat × Nat)
  | [] => scalars start 0x10ffff
  | (lo, hi) :: rest =>
    (if start < lo then scalars start (lo - 1) else []) ++ gaps (hi + 1) rest

/-- The characters that are not in a set. -/
def compl (a : CharSet) : CharSet :=
  ⟨gaps 0 a.intervals⟩

/-- The characters of `a` that are not in `b`. -/
def diff (a b : CharSet) : CharSet :=
  inter a (compl b)

/-- The characters in exactly one of two sets. -/
def symmDiff (a b : CharSet) : CharSet :=
  union (diff a b) (diff b a)

/-- All characters that equal one of a set up to case. For a set of ASCII
characters the runs that touch ASCII are enough. -/
def anyCase (s : CharSet) : CharSet :=
  let runs := if s.isAscii then Text.asciiFoldRuns else Text.foldRuns
  let folded := s.addAll (Text.images runs s.intervals)
  folded.addAll (Text.images (runs.map Text.Run.inverse) folded.intervals)

end CharSet

end ScenarioSteps

import ScenarioSteps.Regex.CharSet

/-!
# `ScenarioSteps.Regex.Syntax`: regular expressions

The tree of a regular expression. All flags of the written form are resolved:
a set already knows whether it ignores case, and an anchor whether it looks at
lines or at the whole text.

Trees are built by `join`, `oneOf`, `times` and `ofSet`, which keep them in a
simple form. Sequences and alternatives are never nested in their own kind,
neighbouring literals are one literal, alternatives of single characters are a
set, and branches that begin alike share their beginning.

Groups are numbered from one in the order of their opening brackets.
-/

set_option autoImplicit false

namespace ScenarioSteps

/-- A condition on a place between two characters. -/
inductive Anchor where
  | textStart
  | textEnd
  | lineStart
  | lineEnd
  /-- A word character on exactly one side. -/
  | wordEdge
  | noWordEdge
  /-- A word character on the right side only. -/
  | wordStart
  /-- A word character on the left side only. -/
  | wordEnd
  /-- No word character on the left side. -/
  | wordStartHalf
  /-- No word character on the right side. -/
  | wordEndHalf
deriving Repr, DecidableEq

/-- Whether a condition holds between two characters, of which either can be
missing at an end of the text. -/
def Anchor.holds (anchor : Anchor) (before after : Option Char) : Bool :=
  let isWord := fun (c : Option Char) => c.any Text.isWordChar
  match anchor with
  | .textStart => before.isNone
  | .textEnd => after.isNone
  | .lineStart => before.isNone || before == some '\n'
  | .lineEnd => after.isNone || after == some '\n'
  | .wordEdge => isWord before != isWord after
  | .noWordEdge => isWord before == isWord after
  | .wordStart => !isWord before && isWord after
  | .wordEnd => isWord before && !isWord after
  | .wordStartHalf => !isWord before
  | .wordEndHalf => !isWord after

/-- How often a part repeats. There is no upper end if `most?` is missing. A
greedy repetition prefers one more round to none. -/
structure Count where
  least : Nat
  most? : Option Nat
  greedy : Bool
deriving Repr, DecidableEq

/-- A count of at most one, for a part that gains nothing from a second time. -/
def Count.atMostOnce (count : Count) : Count :=
  { count with least := min count.least 1, most? := some (min (count.most?.getD 1) 1) }

/-- A regular expression. -/
inductive Regex where
  | empty
  /-- These characters, one after another. -/
  | literal (text : List Char)
  | set (chars : CharSet)
  | anchor (anchor : Anchor)
  | seq (first rest : Regex)
  /-- Either branch; the first is preferred. -/
  | alt (first rest : Regex)
  | repeat (count : Count) (body : Regex)
  /-- Remembers the text that `body` matches under a number. -/
  | group (index : Nat) (body : Regex)
deriving Repr, DecidableEq

namespace Regex

/-- The highest number of a group. -/
def groupCount : Regex → Nat
  | empty | literal _ | set _ | anchor _ => 0
  | seq a b | alt a b => max a.groupCount b.groupCount
  | .repeat _ body => body.groupCount
  | group index body => max index body.groupCount

/-- The least number of characters in a match. There is none if some part of
the expression can never match. -/
def shortest? : Regex → Option Nat
  | empty | anchor _ => some 0
  | literal text => some text.length
  | set chars => if chars.isEmpty then none else some 1
  | seq a b => a.shortest?.bind fun n => b.shortest?.map (n + ·)
  | alt a b => a.shortest?.bind fun n => b.shortest?.map (min n)
  | .repeat count body => body.shortest?.map (count.least * ·)
  | group _ body => body.shortest?

/-- Whether each match takes a character or more. -/
def consumes (r : Regex) : Bool :=
  r.shortest?.any (0 < ·)

/-- Whether an expression consists of conditions on a place, so that no match
takes a character. -/
def isCondition : Regex → Bool
  | empty | anchor _ => true
  | literal _ | set _ => false
  | seq a b | alt a b => a.isCondition && b.isCondition
  | .repeat _ body | group _ body => body.isCondition

/-- The parts of a sequence. -/
def parts : Regex → List Regex
  | empty => []
  | seq first rest => first :: rest.parts
  | r => [r]

/-- Puts a part in front of a sequence. -/
def addPart : Regex → List Regex → List Regex
  | literal a, literal b :: rest => literal (a ++ b) :: rest
  | part, rest => part :: rest

/-- One part after another. -/
def ofParts : List Regex → Regex
  | [] => empty
  | [part] => part
  | part :: rest => seq part (ofParts rest)

/-- One expression after another. -/
def join (list : List Regex) : Regex :=
  ofParts ((list.flatMap parts).foldr addPart [])

/-- A set, written as a literal if it has one character only. -/
def ofSet (chars : CharSet) : Regex :=
  match chars.single? with
  | some c => literal [c]
  | none => set chars

/-- The branches of an alternative. -/
def branches : Regex → List Regex
  | alt first rest => first :: rest.branches
  | r => [r]

/-- One of several branches, the first preferred. -/
def ofBranches : List Regex → Regex
  | [] => set .empty
  | [branch] => branch
  | branch :: rest => alt branch (ofBranches rest)

/-- The set of a literal of one character. -/
def literalSet? : Regex → Option CharSet
  | literal [c] => some (.single c)
  | _ => none

/-- The set that an expression consists of. -/
def set? : Regex → Option CharSet
  | set chars => some chars
  | _ => none

/-- One of several branches that are no alternatives themselves. Literals of
one character or sets are united to one set. -/
def unite (branches : List Regex) : Regex :=
  match branches with
  | [branch] => branch
  | _ =>
    match branches.mapM literalSet? <|> branches.mapM set? with
    | some sets => ofSet (.ofList sets)
    | none => ofBranches branches

/-- What two lists of parts begin with. -/
def commonStart : List Regex → List Regex → List Regex
  | a :: as, b :: bs => if a = b then a :: commonStart as bs else []
  | _, _ => []

/-- The parts that all branches begin with. A branch has to be a sequence to
share a part with others. -/
def sharedStart (branches : List Regex) : List Regex :=
  match branches.map parts with
  | [] | [_] => []
  | first :: others =>
    if (first :: others).all (2 ≤ ·.length) then others.foldl commonStart first else []

/-- One of several expressions, the first preferred. -/
def oneOf (list : List Regex) : Regex :=
  let branches := list.flatMap branches
  match sharedStart branches with
  | [] => unite branches
  | start =>
    let ends := branches.map fun branch => ofParts (branch.parts.drop start.length)
    join (start ++ [unite (ends.flatMap Regex.branches)])

/-- A repetition. Repeating a part zero times leaves nothing of it, not even
its groups; repeating it once is the part itself. A condition on a place holds
for a second time whenever it holds once. -/
def times (count : Count) (body : Regex) : Regex :=
  let count := if body.isCondition then count.atMostOnce else count
  if count.most? == some 0 then empty
  else if count.least == 1 && count.most? == some 1 then body
  else .repeat count body

end Regex

end ScenarioSteps

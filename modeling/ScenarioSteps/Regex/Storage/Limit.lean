import ScenarioSteps.Regex.Storage.CharSet
import ScenarioSteps.Regex.Storage.Literals
import ScenarioSteps.Regex.Syntax

/-!
# `ScenarioSteps.Regex.Storage.Limit`: which patterns are too large

A pattern is refused if an automaton for it takes up more than ten mebibytes.
Two automata are measured. One reads forwards and marks the ends of groups,
the other reads backwards and marks nothing. Repetitions are written out.

An automaton whose matches can start anywhere has a loop over any byte in
front, and each automaton has a final state behind.

A pattern of which a rough upper bound stays below the limit is not measured.
Nor is an alternative of some thousand literals, which needs no automaton.
-/

set_option autoImplicit false

namespace ScenarioSteps.Regex

/-- The number of bytes that an automaton may take up. -/
def storageLimit : Nat :=
  10485760

/-- The way in which an automaton reads. -/
inductive Direction where
  | forward
  | backward
deriving Repr, DecidableEq

/-- The bytes of a literal in the order in which they are read. -/
def literalBytes (direction : Direction) (text : List Char) : List Nat :=
  let bytes := text.flatMap fun c => Text.utf8 c.toNat
  match direction with
  | .forward => bytes
  | .backward => bytes.reverse

/-- The text of a literal. -/
def literal? : Regex → Option (List Char)
  | literal text => some text
  | _ => none

/-- Adds several copies of a body. Nothing more is added beyond the limit. -/
def addCopies (body : Tally → Tally) : Nat → Tally → Tally
  | 0, t => t
  | n + 1, t => if storageLimit < t.bytes then t else addCopies body n (body t)

/-- Adds a repetition. -/
def addRepeated (count : Count) (consumes : Bool) (body : Tally → Tally) (t : Tally) : Tally :=
  match count.least, count.most? with
  | 0, some 1 => (body (t.addChoice 2)).addStates 1
  | 0, none =>
    if consumes then body (t.addChoice 2)
    else (((body t).addChoice 2).addChoice 2).addStates 1
  | least, none => (addCopies body least t).addChoice 2
  | least, some most =>
    let required := if least == 0 then t.addStates 1 else addCopies body least t
    if least == most then required
    else addCopies (fun t => body (t.addChoice 2)) (most - least) (required.addStates 1)

/-- Adds what joins the branches of an alternative. `branch?` is the number of
branches before the one that was added last. The choice between the branches
and their common end are added behind the second one. -/
def endBranch (branch? : Option Nat) (t : Tally) : Tally :=
  match branch? with
  | none => t
  | some 1 => (t.addChoice 1).addStates 1
  | some _ => { t with alternatives := t.alternatives + 1 }

/-- Adds an expression to an automaton, in which states are numbered in the
order of their addition. `branch?` is the number of branches before it if it
is a part of an alternative. -/
def addTo (direction : Direction) : Regex → Option Nat → Tally → Tally
  | alt first rest, branch?, t =>
    let texts? := if branch?.isNone then (first :: rest.branches).mapM literal? else none
    match texts? with
    | some texts => t.add (literalTree (texts.map (literalBytes direction)))
    | none =>
      let branch := branch?.getD 0
      addTo direction rest (some (branch + 1))
        (endBranch (some branch) (addTo direction first none t))
  | empty, branch?, t | anchor _, branch?, t => endBranch branch? (t.addStates 1)
  | literal text, branch?, t =>
    endBranch branch? (t.addStates (literalBytes direction text).length)
  | set chars, branch?, t =>
    endBranch branch? (t.add
      (match direction with
      | .forward => forwardSet chars
      | .backward => backwardSet t.states chars))
  | seq first rest, branch?, t =>
    endBranch branch?
      (match direction with
      | .forward => addTo direction rest none (addTo direction first none t)
      | .backward => addTo direction first none (addTo direction rest none t))
  | .repeat count body, branch?, t =>
    endBranch branch?
      (addRepeated count body.consumes (fun t => addTo direction body none t) t)
  | group _ body, branch?, t =>
    endBranch branch?
      (match direction with
      | .forward => (addTo direction body none (t.addStates 1)).addStates 1
      | .backward => addTo direction body none t)

/-- Whether each match starts at the start of the text. -/
def startsText : Regex → Bool
  | anchor condition => condition == .textStart
  | seq first rest => first.startsText || (first.isCondition && rest.startsText)
  | alt first rest => first.startsText && rest.startsText
  | .repeat count body => 0 < count.least && body.startsText
  | group _ body => body.startsText
  | empty | literal _ | set _ => false

/-- Whether each match ends at the end of the text. -/
def endsText : Regex → Bool
  | anchor condition => condition == .textEnd
  | seq first rest => rest.endsText || (rest.isCondition && first.endsText)
  | alt first rest => first.endsText && rest.endsText
  | .repeat count body => 0 < count.least && body.endsText
  | group _ body => body.endsText
  | empty | literal _ | set _ => false

/-- The part of an automaton in front of the expression. -/
def entrance (anchored : Bool) : Tally :=
  if anchored then Tally.addStates {} 1 else ((Tally.addChoice {} 2).addStates 1).addTable 1

/-- The automaton that reads forwards. The whole match is a group as well. -/
def forwardTally (r : Regex) : Tally :=
  (addTo .forward r none ((entrance r.startsText).addStates 1)).addStates 2

/-- The automaton that reads backwards. -/
def backwardTally (r : Regex) : Tally :=
  (addTo .backward r none (entrance r.endsText)).addStates 1

/-- An upper bound of the bytes that an expression takes up. An interval of
code points is written by 21 byte patterns at most. -/
def roughBytes : Regex → Nat
  | empty | anchor _ => 64
  | literal text => 512 * text.length
  | set chars => 4096 * chars.intervals.length + 64
  | seq a b => a.roughBytes + b.roughBytes
  | alt a b => a.roughBytes + b.roughBytes + 128
  | .repeat count body => max count.least (count.most?.getD 1) * (body.roughBytes + 128) + 256
  | group _ body => body.roughBytes + 64

/-- Whether an expression is an alternative of 3000 literals or more. -/
def isWordList (r : Regex) : Bool :=
  3000 ≤ r.branches.length && (r.branches.mapM literal?).isSome

/-- Whether a pattern is small enough. -/
def fitsStorage (r : Regex) : Bool :=
  r.roughBytes + 256 ≤ storageLimit || r.isWordList
    || (r.forwardTally.bytes ≤ storageLimit && r.backwardTally.bytes ≤ storageLimit)

end ScenarioSteps.Regex

import ScenarioSteps.Regex.Syntax

/-!
# `ScenarioSteps.Regex.Program`: regular expressions as programs

A regular expression is compiled to a list of instructions. Each instruction
leads to the next one or names the addresses it leads to, and the match is
complete behind the last one.

An expression at an address takes up `codeLength` instructions from there on,
so addresses are known before the instructions are.

A repetition without an upper end returns to its body with a fork behind it.
If it needs no round at all and its body consumes, a single fork in front
decides about every round. If the body can match nothing, the first round is
decided by a fork of its own: a round that matches nothing then still ends at
the fork behind the body, and leaves the repetition there.
-/

set_option autoImplicit false

namespace ScenarioSteps.Regex

/-- An end of the text of a group. -/
structure Mark where
  group : Nat
  closing : Bool
deriving Repr, DecidableEq

/-- What a thread of a search does next. -/
inductive Instruction where
  /-- Moves over a character of a set. -/
  | eat (chars : CharSet)
  /-- Goes on if a condition holds at the place. -/
  | check (anchor : Anchor)
  /-- Goes on at two addresses; the first is preferred. -/
  | fork (first second : Nat)
  | jump (target : Nat)
  /-- Remembers the place. -/
  | save (mark : Mark)
deriving Repr, DecidableEq

/-- Goes on with another round or leaves a repetition. -/
def roundOrLeave (greedy : Bool) (round leave : Nat) : Instruction :=
  if greedy then .fork round leave else .fork leave round

/-- The number of instructions for a repetition, of which the body has `n`. -/
def repeatedLength (count : Count) (n : Nat) : Nat :=
  match count.most?, count.least with
  | some most, least => least * n + (most - least) * (n + 1)
  | none, 0 => n + 2
  | none, least + 1 => (least + 1) * n + 1

/-- The number of instructions for an expression. -/
def codeLength : Regex → Nat
  | empty => 0
  | literal text => text.length
  | set _ | anchor _ => 1
  | seq a b => a.codeLength + b.codeLength
  | alt a b => a.codeLength + b.codeLength + 2
  | .repeat count body => repeatedLength count body.codeLength
  | group _ body => body.codeLength + 2

/-- The instructions of several copies of a body that has `n`. -/
def copies (body : Nat → List Instruction) (n times start : Nat) : List Instruction :=
  (List.range times).flatMap fun i => body (start + i * n)

/-- The instructions of a repetition at an address. -/
def repeated (count : Count) (consumes : Bool) (body : Nat → List Instruction) (n start : Nat) :
    List Instruction :=
  let choice := roundOrLeave count.greedy
  match count.most?, count.least with
  | some most, least =>
    let optional := start + least * n
    let done := optional + (most - least) * (n + 1)
    let round := fun address => choice (address + 1) done :: body (address + 1)
    copies body n least start ++ copies round (n + 1) (most - least) optional
  | none, 0 =>
    let fork := choice (start + 1) (start + n + 2)
    fork :: body (start + 1) ++ [if consumes then .jump start else fork]
  | none, least + 1 =>
    let last := start + least * n
    copies body n (least + 1) start ++ [choice last (last + n + 1)]

/-- The instructions of an expression at an address. -/
def code : Regex → Nat → List Instruction
  | empty, _ => []
  | literal text, _ => text.map fun c => .eat (.single c)
  | set chars, _ => [.eat chars]
  | anchor condition, _ => [.check condition]
  | seq a b, start => a.code start ++ b.code (start + a.codeLength)
  | alt a b, start =>
    let second := start + a.codeLength + 2
    let done := second + b.codeLength
    .fork (start + 1) second :: a.code (start + 1) ++ .jump done :: b.code second
  | .repeat count body, start =>
    repeated count body.consumes (fun address => body.code address) body.codeLength start
  | group index body, start =>
    .save ⟨index, false⟩ :: body.code (start + 1) ++ [.save ⟨index, true⟩]

/-- The program of an expression. -/
def program (r : Regex) : Array Instruction :=
  (r.code 0).toArray

end ScenarioSteps.Regex

import ScenarioSteps.Regex.Program

/-!
# `ScenarioSteps.Regex.Match`: which match is found

A pattern is searched for anywhere in a text. The match with the leftmost
start wins, and among matches with the same start the most preferred one:
the first branch of an alternative, one more round of a greedy repetition,
one round less of a lazy one.

The search reads the text once. At each place it keeps the threads of the
program that have come so far, the most preferred first. No two threads of a
place ever execute the same instruction, because what follows depends on the
instruction and the place only: the second thread could not lead to a match
that the first does not lead to. This also ends a repetition whose round
matches nothing, as it comes back to an instruction that it has executed.

As long as no match is found, a new thread starts at each place, behind all
others. A thread that reaches the end of the program has found a match. Less
preferred threads are given up then, and more preferred ones go on.
-/

set_option autoImplicit false

namespace ScenarioSteps.Regex

/-- The places that a thread has remembered, the latest first. -/
abbrev Trail :=
  List (Mark × Nat)

/-- A thread of a search: the address of the next instruction, and the places
remembered on the way there. -/
structure Thread where
  next : Nat
  trail : Trail
deriving Repr, DecidableEq

/-- A place between two characters of a text. -/
structure Place where
  before : Option Char
  after : Option Char
  /-- The number of characters before it. -/
  position : Nat
deriving Repr, DecidableEq

/-- Where the threads of a search stand at a place. -/
structure Front where
  /-- The threads that wait for a character, the least preferred first. -/
  waiting : List Thread
  /-- The match that was found at this place. -/
  found? : Option Trail

/-- Executes the instructions that eat nothing. `stack` holds the threads that
are still to go on, the most preferred first, and `visited` the instructions
that were executed at this place. Each instruction is executed once and adds
at most two threads, so twice the length of the program and the number of
threads is fuel enough. -/
def advance (program : Array Instruction) (place : Place) :
    Nat → List Thread → List Thread → Array Bool → Front
  | 0, _, waiting, _ | _, [], waiting, _ => ⟨waiting, none⟩
  | fuel + 1, t :: stack, waiting, visited =>
    if visited[t.next]? == some true then advance program place fuel stack waiting visited
    else
      let visited := visited.setIfInBounds t.next true
      match program[t.next]? with
      -- Behind the last instruction a match is found. What is left of the stack is less preferred.
      | none => ⟨waiting, some t.trail⟩
      | some (.eat _) => advance program place fuel stack (t :: waiting) visited
      | some (.check condition) =>
        let stack :=
          if condition.holds place.before place.after then
            { t with next := t.next + 1 } :: stack
          else stack
        advance program place fuel stack waiting visited
      | some (.fork first second) =>
        let stack := { t with next := first } :: { t with next := second } :: stack
        advance program place fuel stack waiting visited
      | some (.jump target) =>
        advance program place fuel ({ t with next := target } :: stack) waiting visited
      | some (.save mark) =>
        -- An earlier place of the same mark stays in the trail, but it is not looked up any more.
        let t := ⟨t.next + 1, (mark, place.position) :: t.trail⟩
        advance program place fuel (t :: stack) waiting visited

/-- The threads that go on over a character. -/
def eatChar (program : Array Instruction) (c : Char) (waiting : List Thread) : List Thread :=
  -- The fold turns the threads round, so the most preferred one comes first again.
  waiting.foldl (fun threads (t : Thread) =>
    match program[t.next]? with
    | some (.eat chars) =>
      if chars.mem c then { t with next := t.next + 1 } :: threads else threads
    | _ => threads) []

/-- Searches from a place on. `found?` is the best match so far, and `threads`
have come to the place. -/
def searchFrom (program : Array Instruction) (found? : Option Trail) (threads : List Thread)
    (before : Option Char) (position : Nat) (text : List Char) : Option Trail :=
  if found?.isSome && threads.isEmpty then found?
  else
    -- A match further left wins, so nothing starts here once there is one.
    let stack := if found?.isNone then threads ++ [⟨0, []⟩] else threads
    let fuel := 2 * program.size + stack.length + 1
    let front := advance program ⟨before, text.head?, position⟩ fuel stack []
      (Array.replicate program.size false)
    let found? := front.found? <|> found?
    match text with
    | [] => found?
    | c :: rest =>
      searchFrom program found? (eatChar program c front.waiting) (some c) (position + 1) rest

/-- The places remembered by the match that a search finds. -/
def search? (r : Regex) (text : List Char) : Option Trail :=
  searchFrom r.program none [] none 0 text

/-- The text of a group, unless the match did not pass through it. -/
def Trail.group? (trail : Trail) (text : List Char) (index : Nat) : Option String := do
  let start ← trail.lookup ⟨index, false⟩
  let stop ← trail.lookup ⟨index, true⟩
  pure (String.ofList ((text.drop start).take (stop - start)))

/-- The texts of the groups in the match that a search finds. A group that the
match did not pass through has none. -/
def captures? (r : Regex) (text : String) : Option (List (Option String)) :=
  let text := text.toList
  (r.search? text).map fun trail =>
    (List.range r.groupCount).map fun i => trail.group? text (i + 1)

/-- Whether a pattern occurs in a text. -/
def occursIn (r : Regex) (text : String) : Bool :=
  (r.search? text.toList).isSome

end ScenarioSteps.Regex

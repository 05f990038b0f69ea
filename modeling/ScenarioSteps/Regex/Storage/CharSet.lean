import ScenarioSteps.Regex.CharSet
import ScenarioSteps.Regex.Storage.Tally
import ScenarioSteps.Text.Utf8

/-!
# `ScenarioSteps.Regex.Storage.CharSet`: the automaton of a set

An automaton reads bytes, so a set of characters is an automaton of its own.
A set of ASCII characters is one table. Any other set is read byte by byte.

Read forwards, the byte patterns of a set form a tree, in which equal
branches are kept once.

Read backwards, each byte pattern is a chain of states that starts at the end
of the set, and a choice stands in front of all chains. Chains share a state
with an earlier chain if that is still remembered: the memory has 1000 places,
and a state takes the place that a hash of its contents names.
-/

set_option autoImplicit false

namespace ScenarioSteps.Regex

/-- A node of the tree of byte patterns: intervals of bytes, and the number of
the node that each leads to. -/
abbrev ByteNode :=
  List (Nat × Nat × Nat)

/-- Puts patterns that begin with the same interval in one group. -/
def groupByHead : List Text.BytePattern → List ((Nat × Nat) × List Text.BytePattern)
  | [] => []
  | [] :: patterns => groupByHead patterns
  | (head :: tail) :: patterns =>
    match groupByHead patterns with
    | (next, tails) :: groups =>
      if next == head then (head, tail :: tails) :: groups
      else (head, [tail]) :: (next, tails) :: groups
    | [] => [(head, [tail])]

/-- The number of a node, where the end of the set has number zero and nodes
are numbered from one in the order of the list. -/
def numberNode (nodes : List ByteNode) (node : ByteNode) : List ByteNode × Nat :=
  match nodes.findIdx? (· == node) with
  | some i => (nodes, i + 1)
  | none => (nodes ++ [node], nodes.length + 1)

/-- Adds the tree of byte patterns to the nodes known so far, and answers the
number of its root. `depth` bounds the length of the patterns. -/
def addTree : Nat → List ByteNode → List Text.BytePattern → List ByteNode × Nat
  | 0, nodes, _ => (nodes, 0)
  | depth + 1, nodes, patterns =>
    let step := fun (state : List ByteNode × ByteNode) (group : (Nat × Nat) × _) =>
      let (nodes, target) :=
        if group.2.all List.isEmpty then (state.1, 0) else addTree depth state.1 group.2
      (nodes, state.2 ++ [(group.1.1, group.1.2, target)])
    let (nodes, node) := (groupByHead patterns).foldl step (nodes, [])
    numberNode nodes node

/-- What a set takes up if it is read forwards. -/
def forwardSet (chars : CharSet) : Tally :=
  if chars.isAscii then (Tally.addStates {} 1).addTable chars.intervals.length
  else
    let nodes := (addTree 4 [] (Text.bytePatterns chars.intervals)).1
    nodes.foldl (fun t node => t.addTable node.length) (Tally.addStates {} 1)

/-- A state of a chain: the state that it leads to and its interval of bytes. -/
abbrev ChainState :=
  Nat × Nat × Nat

/-- The place of a state in the memory. -/
def ChainState.place (s : ChainState) : Nat :=
  let mix := fun (hash : UInt64) (n : Nat) => (hash ^^^ UInt64.ofNat n) * 1099511628211
  (mix (mix (mix 14695981039346656037 s.1) s.2.1) s.2.2).toNat % 1000

/-- The states that are remembered, with their numbers, and the number of the
next state. -/
structure ChainMemory where
  known : Array (Option (ChainState × Nat))
  next : Nat

/-- Goes over a chain from the end of the set. -/
def ChainMemory.addChain (memory : ChainMemory) (last : Nat) (pattern : Text.BytePattern) :
    ChainMemory :=
  let step := fun (state : ChainMemory × Nat) (bytes : Nat × Nat) =>
    let (memory, last) := state
    let wanted : ChainState := (last, bytes.1, bytes.2)
    let place := wanted.place
    match memory.known[place]? with
    | some (some (kept, number)) =>
      if kept == wanted then (memory, number)
      else (⟨memory.known.setIfInBounds place (some (wanted, memory.next)), memory.next + 1⟩,
        memory.next)
    | _ => (⟨memory.known.setIfInBounds place (some (wanted, memory.next)), memory.next + 1⟩,
        memory.next)
  (pattern.foldl step (memory, last)).1

/-- What a set takes up if it is read backwards and its first state gets the
number `start`. -/
def backwardSet (start : Nat) (chars : CharSet) : Tally :=
  if chars.isAscii then (Tally.addStates {} 1).addTable chars.intervals.length
  else
    let patterns := Text.bytePatterns chars.intervals
    let opened : ChainMemory := ⟨Array.replicate 1000 none, start + 2⟩
    let memory := patterns.foldl (ChainMemory.addChain · (start + 1) ·) opened
    ⟨memory.next - start, patterns.length, 0⟩

end ScenarioSteps.Regex

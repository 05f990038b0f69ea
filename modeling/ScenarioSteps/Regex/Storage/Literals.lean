import ScenarioSteps.Regex.Storage.Tally

/-!
# `ScenarioSteps.Regex.Storage.Literals`: the automaton of many literals

An alternative of literals is kept as a tree, in which literals share what
they begin with. The order of the branches has to stay: once a literal has
ended at a node, a later literal does not share the edges of earlier ones
there, since the shorter one is preferred to it. So the edges of a node come
in *bundles*, with an end of a literal between any two.
-/

set_option autoImplicit false

namespace ScenarioSteps.Regex

/-- The bundles of a node, through which the literals pass in the given order.
An end without edges before it counts only once. -/
def bundles : List (List Nat) → List (List (List Nat))
  | [] => [[]]
  | [] :: rest =>
    let rest := rest.dropWhile List.isEmpty
    [] :: split rest
  | literals => split literals
where
  /-- The bundles where each end counts. -/
  split : List (List Nat) → List (List (List Nat))
    | [] => [[]]
    | [] :: rest => [] :: split rest
    | literal :: rest =>
      match split rest with
      | [] => [[literal]]
      | bundle :: others => (literal :: bundle) :: others

/-- What the node takes up through which the literals pass, with all nodes
behind it. `depth` bounds the length of the literals. -/
def literalNode : Nat → List (List Nat) → Tally
  | 0, _ => {}
  | depth + 1, literals =>
    let bundles := bundles literals
    let filled := bundles.filter (!·.isEmpty)
    let own := Tally.addChoice {} (filled.length + (bundles.length - 1))
    filled.foldl (fun t bundle =>
      let heads := (bundle.filterMap List.head?).eraseDups
      let t := if heads.length == 1 then t.addStates 1 else t.addTable heads.length
      heads.foldl (fun t head =>
        let tails := (bundle.filter (·.head? == some head)).map List.tail
        if tails.all List.isEmpty then t else t.add (literalNode depth tails)) t) own

/-- What an alternative of literals takes up. -/
def literalTree (literals : List (List Nat)) : Tally :=
  let depth := (literals.map List.length).foldl max 0
  (literalNode (depth + 1) literals).addStates 1

end ScenarioSteps.Regex

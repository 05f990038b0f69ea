import ScenarioSteps.Pattern.Registry
import ScenarioSteps.Text.Lowercase

/-!
# `ScenarioSteps.Pattern.Search`: finding patterns by what they say

A query is looked for, without regard to case, in the source of a pattern, in
its tags and in its description. Each of the three that contains it adds a
weight to the pattern's score. Results are ranked by score, and patterns with
equal scores keep the order of the registry.
-/

set_option autoImplicit false

namespace ScenarioSteps

/-- What a query is worth in the source of a pattern. -/
def sourceWeight : Nat := 10

/-- What a query is worth in a tag, however many contain it. -/
def tagWeight : Nat := 5

/-- What a query is worth in the description. -/
def descriptionWeight : Nat := 3

/-- Whether the lower-case form of a text contains a query. -/
def mentions (text query : String) : Bool :=
  Text.contains query.toList (Text.lower text).toList

/-- The weights of all places of a pattern that contain a query. The query is
taken as it is, so it finds anything only in lower case. -/
def StepPattern.score (p : StepPattern) (query : String) : Nat :=
  (if mentions p.source query then sourceWeight else 0)
    + (if p.tags.any (mentions · query) then tagWeight else 0)
    + (if mentions p.description query then descriptionWeight else 0)

/-- A pattern that a search found. -/
structure Hit where
  entry : Entry
  score : Nat

/-- The patterns that mention a query, best first. A blank query finds none. -/
def Registry.search (r : Registry) (query : String) : List Hit :=
  let query := Text.lower (Text.trimmed query)
  if query.isEmpty then []
  else
    let hits := r.entries.map fun entry => (⟨entry, entry.pattern.score query⟩ : Hit)
    -- The sort is stable, so hits of one score stay in the order of priority.
    (hits.filter (0 < ·.score)).mergeSort fun a b => b.score ≤ a.score

end ScenarioSteps

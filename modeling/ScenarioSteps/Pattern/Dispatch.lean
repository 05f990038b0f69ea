import ScenarioSteps.Pattern.Registry

/-!
# `ScenarioSteps.Pattern.Dispatch`: which pattern recognises a sentence

A sentence is trimmed and tried against the patterns of a registry in order of
priority. A pattern recognises it if it occurs anywhere in it, so words before
and behind a phrase do not matter. The first pattern that does wins.
-/

set_option autoImplicit false

namespace ScenarioSteps

/-- An entry that recognises a sentence, with the texts of its groups. -/
structure Match where
  entry : Entry
  captures : List (Option String)

namespace Match

/-- The key of the pattern. -/
def key (m : Match) : String :=
  m.entry.key

/-- Runs the generator of the pattern. -/
def generate (m : Match) (options : Options) : Outcome × Captures :=
  m.entry.pattern.generator.run options m.captures

end Match

/-- Tries a pattern on a sentence that is already trimmed. -/
def Entry.recognise? (entry : Entry) (sentence : String) : Option Match :=
  (entry.regex.captures? sentence).map fun captures => ⟨entry, captures⟩

namespace Registry

/-- The first pattern that recognises a sentence. -/
def resolve? (r : Registry) (sentence : String) : Option Match :=
  let sentence := Text.trimmed sentence
  r.entries.findSome? (·.recognise? sentence)

/-- All patterns that recognise a sentence, in order of priority. -/
def resolveAll (r : Registry) (sentence : String) : List Match :=
  let sentence := Text.trimmed sentence
  r.entries.filterMap (·.recognise? sentence)

end Registry

end ScenarioSteps

import ScenarioSteps.Literal.Escape
import ScenarioSteps.Pattern.Dispatch

/-!
# `ScenarioSteps.Declaration.Body`: the body for a sentence

Every sentence gets a body. If no pattern recognises it, or the generator of
the pattern that does breaks down or yields nothing but blanks, the body is a
*placeholder*: a comment that says what happened, and a statement that throws
when the test runs.
-/

set_option autoImplicit false

namespace ScenarioSteps

/-- The body for a sentence, and the entry whose generator was run for it. -/
structure Body where
  text : String
  entry? : Option Entry

namespace Body

/-- A comment line and a statement that throws a message. -/
def placeholder (comment message : String) : String :=
  "// " ++ comment ++ "\nthrow new Error(" ++ Literal.quoted message ++ ");"

/-- The placeholder for a sentence that no pattern recognises. -/
def unmatched (sentence : String) : String :=
  placeholder ("No step pattern matched: " ++ Literal.escapeComment sentence)
    ("Step not implemented: " ++ sentence)

/-- The placeholder for a sentence whose generator failed. -/
def failed (key sentence reason : String) : String :=
  placeholder ("Generator " ++ key ++ " failed: " ++ Literal.escapeComment reason)
    ("Step generation failed: " ++ sentence)

/-- The reason of a failure that gives none. -/
def unknownReason : String :=
  "panic"

/-- The body that the run of a generator leaves. -/
def ofOutcome (key sentence : String) (outcome : Outcome) : String :=
  match outcome with
  | .body text =>
    if (Text.trim text.toList).isEmpty then failed key sentence "empty body" else text
  | .broken reason? => failed key sentence (reason?.getD unknownReason)

end Body

/-- The body for a sentence. -/
def Registry.body (r : Registry) (options : Options) (sentence : String) : Body :=
  match r.resolve? sentence with
  | some found =>
    ⟨Body.ofOutcome found.key sentence (found.generate options).1, some found.entry⟩
  | none => ⟨Body.unmatched sentence, none⟩

end ScenarioSteps

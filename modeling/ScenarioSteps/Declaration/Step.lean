import ScenarioSteps.Declaration.Body
import ScenarioSteps.Declaration.Format
import ScenarioSteps.Script.Extract

/-!
# `ScenarioSteps.Declaration.Step`: declarations of single and of all steps

A sentence that stands alone may begin with a keyword, which is taken off and
gives the kind. A sentence without a keyword that names a kind has the kind of
the pattern that recognises it, or is a `Given`.

A step of a script has its own kind. What is attached to it is kept as
comments before the body.
-/

set_option autoImplicit false

namespace ScenarioSteps

/-- The keyword, if any, and the sentence of a text that stands alone. -/
def splitSentence (text : String) : Option Keyword × String :=
  match stepLine? text.toList with
  | some (keyword, sentence) => (some keyword, String.ofList sentence)
  | none => (none, Text.trimmed text)

/-- The declaration of a sentence that stands alone. -/
def Registry.declareText (r : Registry) (options : Options) (text : String) : String :=
  let (keyword?, sentence) := splitSentence text
  let body := r.body options sentence
  let kind :=
    (keyword?.bind Keyword.kind?) <|> body.entry?.map (·.pattern.kind.stepKind)
  Declaration.format options.output (kind.getD .given) sentence body.text

namespace ScriptStep

/-- The comment lines that keep a doc string. -/
def docComment (doc : DocString) : String :=
  let media :=
    match doc.mediaType? with
    | some media => " (" ++ media ++ ")"
    | none => ""
  let line := fun (l : List Char) =>
    "//   ".toList ++ l.flatMap Literal.commentChar ++ ['\n']
  "// Doc string" ++ media ++ ":\n"
    ++ String.ofList ((Text.lines doc.content.toList).flatMap line)

/-- The comment lines that keep a table. -/
def tableComment (table : Table) : String :=
  let row := fun (cells : List String) =>
    "//   | " ++ " | ".intercalate (cells.map Literal.escapeComment) ++ " |\n"
  "// Data table:\n" ++ String.join (table.map row)

/-- The comment lines that keep what is attached to a step. -/
def context (step : ScriptStep) : String :=
  (step.docString?.map docComment).getD "" ++ (step.table?.map tableComment).getD ""

end ScriptStep

/-- The declaration of a step of a script. -/
def Registry.declareStep (r : Registry) (options : Options) (step : ScriptStep) : String :=
  Declaration.format options.output step.kind step.text
    (step.context ++ (r.body options step.text).text)

/-- The declarations of a script by kind, each in the order of the document. -/
structure Buckets where
  given : List String
  when : List String
  «then» : List String
deriving Repr, DecidableEq

/-- The number of declarations. -/
def Buckets.size (b : Buckets) : Nat :=
  b.given.length + b.when.length + b.then.length

/-- The declarations of all steps of a script. -/
def Registry.declareScript (r : Registry) (policy : ConjunctionPolicy) (options : Options)
    (script : String) : Buckets :=
  let steps := (Script.extract policy script).steps
  let ofKind := fun (kind : StepKind) =>
    (steps.filter (·.kind == kind)).map (r.declareStep options)
  ⟨ofKind .given, ofKind .when, ofKind .then⟩

end ScenarioSteps

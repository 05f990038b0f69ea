import ScenarioSteps.Literal.Escape
import ScenarioSteps.Options
import ScenarioSteps.Script.Line
import ScenarioSteps.Text.Lines

/-!
# `ScenarioSteps.Declaration.Format`: the syntax of declarations

A declaration wraps a body of code. It names the kind and the sentence of a
step on its first line, each line of the body follows with an indentation of
two blanks, and a closing line ends it. The sentence is escaped for the place
where the output target puts it:

- `cucumber` makes it a regular expression that matches this sentence only,
- `playwright-bdd` puts it into a string in double quotes,
- `generic` puts it into a comment before a block.

`Declaration.read` takes kind and sentence off the first line again.
-/

set_option autoImplicit false

namespace ScenarioSteps

/-- Puts `start` in front of every line that is not blank. Blank lines become
empty, and every line ends with a line feed. -/
def indent (start text : String) : String :=
  let line := fun (l : List Char) =>
    if (Text.trim l).isEmpty then ['\n'] else start.toList ++ l ++ ['\n']
  String.ofList ((Text.lines text.toList).flatMap line)

/-- The indentation of bodies. -/
def bodyIndent : String :=
  "  "

namespace Declaration

/-- The first line, which names kind and sentence. -/
def opening (target : OutputTarget) (kind : StepKind) (sentence : String) : String :=
  match target with
  | .cucumber =>
    kind.word ++ "(/^" ++ Literal.escapeRegex sentence ++ "$/, async function () \x7b\n"
  | .playwrightBdd =>
    "await test.step(\"" ++ kind.word ++ " " ++ Literal.escapeString '"' sentence
      ++ "\", async () => \x7b\n"
  | .generic => "// " ++ kind.word ++ " " ++ Literal.escapeComment sentence ++ "\n\x7b\n"

/-- The last line. -/
def closing : OutputTarget → String
  | .cucumber | .playwrightBdd => "\x7d);"
  | .generic => "\x7d"

/-- The declaration of a step with a given body. -/
def format (target : OutputTarget) (kind : StepKind) (sentence body : String) : String :=
  opening target kind sentence ++ indent bodyIndent body ++ closing target

/-- The text before and behind the first place where `mark` occurs. -/
def splitAt? (mark : List Char) : List Char → Option (List Char × List Char)
  | [] => if mark.isEmpty then some ([], []) else none
  | c :: rest =>
    match Text.after? mark (c :: rest) with
    | some behind => some ([], behind)
    | none => (splitAt? mark rest).map fun (before, behind) => (c :: before, behind)

/-- What is left of a text before `ending`, if it ends with it. -/
def before? (ending cs : List Char) : Option (List Char) :=
  if ending.isSuffixOf cs then some (cs.take (cs.length - ending.length)) else none

/-- Reads kind and sentence off a word and an escaped text. -/
def readParts (word escaped : List Char) : Option (StepKind × String) :=
  (StepKind.ofWord? (String.ofList word)).map fun kind =>
    (kind, String.ofList (Literal.unescapeChars escaped))

/-- Reads kind and sentence off the first line of a declaration. -/
def readLine (target : OutputTarget) (line : List Char) : Option (StepKind × String) :=
  match target with
  | .cucumber => do
    let (word, rest) ← splitAt? "(/^".toList line
    readParts word (← before? "$/, async function () \x7b".toList rest)
  | .playwrightBdd => do
    let rest ← Text.after? "await test.step(\"".toList line
    let rest ← before? "\", async () => \x7b".toList rest
    let (word, escaped) ← splitAt? [' '] rest
    readParts word escaped
  | .generic => do
    let rest ← Text.after? "// ".toList line
    let (word, escaped) ← splitAt? [' '] rest
    readParts word escaped

/-- Reads kind and sentence off a declaration. -/
def read (target : OutputTarget) (declaration : String) : Option (StepKind × String) := do
  readLine target (← (Text.lines declaration.toList).head?)

end Declaration

end ScenarioSteps

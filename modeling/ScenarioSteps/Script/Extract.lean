import ScenarioSteps.Options
import ScenarioSteps.Script.Line
import ScenarioSteps.Script.Step
import ScenarioSteps.Text.Lines

/-!
# `ScenarioSteps.Script.Extract`: the steps of a script

A script is scanned line by line. Nothing in it is an error: prose is passed
over, and a fence that is never closed counts as a line of no meaning.

- A header of the scenario family or a background begins a new scenario and
  gives it a title, its own word if no title is written.
- A step takes the kind that its keyword names. A conjunction inherits the
  latest kind that was named since the last header that resets it, or is a
  `Given` if there is none.
- A row or a doc string belongs to the step before it as long as neither a
  header nor prose stands between. Behind an examples header, rows are
  example data until the next step or header that is not an examples header.

A fence opens a doc string at once. If the script ends inside, the scan goes
back to the line behind that fence and reads on from there as if it had not
been one.
-/

set_option autoImplicit false

namespace ScenarioSteps

/-- What a scan knows about the lines before the current one. -/
structure Scan where
  feature? : Option String := none
  /-- The steps so far, the latest first. -/
  steps : List ScriptStep := []
  /-- The rows of example tables so far, the latest first. -/
  exampleRows : Table := []
  scenario? : Option String := none
  inBackground : Bool := false
  /-- The latest kind that a keyword named since it was last reset. -/
  namedKind? : Option StepKind := none
  inExamples : Bool := false
  /-- Whether a row or a doc string would belong to the latest step. -/
  attaching : Bool := false
deriving Repr, DecidableEq

namespace Scan

/-- A text, unless it is empty. -/
def nonempty? (cs : List Char) : Option String :=
  if cs.isEmpty then none else some (String.ofList cs)

/-- Passes a header. -/
def header (s : Scan) (header : Header) (title : List Char) : Scan :=
  let s := { s with attaching := false }
  match header with
  -- Steps below a feature or a rule still carry the scenario above it, if there is one.
  | .feature => { s with feature? := nonempty? title, namedKind? := none }
  -- The kind for the next conjunction stays as it was.
  | .examples | .scenarios => { s with inExamples := true }
  | .rule => { s with namedKind? := none, inExamples := false, inBackground := false }
  | _ =>
    { s with
      scenario? := some ((nonempty? title).getD header.text)
      inBackground := header == .background
      namedKind? := none
      inExamples := false }

/-- The kind of a step with a keyword. -/
def kindOf (s : Scan) (policy : ConjunctionPolicy) (keyword : Keyword) : StepKind :=
  match keyword.kind? with
  | some kind => kind
  | none =>
    match policy with
    | .inherit => s.namedKind?.getD .given
    | .alwaysWhen => .when

/-- Passes a step. -/
def step (s : Scan) (policy : ConjunctionPolicy) (keyword : Keyword)
    (sentence written : List Char) (line : Nat) : Scan :=
  let found : ScriptStep :=
    { kind := s.kindOf policy keyword
      keyword
      text := String.ofList sentence
      written := String.ofList written
      line
      scenario? := s.scenario?
      background := s.inBackground }
  { s with
    steps := found :: s.steps
    namedKind? := keyword.kind? <|> s.namedKind?
    inExamples := false
    attaching := true }

/-- Changes the latest step. -/
def editLatest (s : Scan) (edit : ScriptStep → ScriptStep) : Scan :=
  match s.steps with
  | [] => s
  | latest :: earlier => { s with steps := edit latest :: earlier }

/-- Passes a row. -/
def row (s : Scan) (cells : List (List Char)) : Scan :=
  let cells := cells.map String.ofList
  -- Behind an examples header a row is data, even if a step could still take it.
  if s.inExamples then { s with exampleRows := cells :: s.exampleRows }
  else if s.attaching then
    s.editLatest fun step => { step with table? := some (step.table?.getD [] ++ [cells]) }
  else s

/-- Passes a doc string. A later one replaces an earlier one. -/
def docString (s : Scan) (doc : DocString) : Scan :=
  if s.attaching && !s.inExamples then
    s.editLatest fun step => { step with docString? := some doc }
  else s

/-- Passes a line that does not open a doc string. -/
def line (s : Scan) (policy : ConjunctionPolicy) (text : List Char) (number : Nat) : Scan :=
  match ScriptLine.of text with
  | .silent | .fence .. => s
  | .row cells => s.row cells
  | .header header title => s.header header title
  | .step keyword sentence => s.step policy keyword sentence (Text.trim text) number
  | .prose => { s with attaching := false }

/-- What has been extracted. -/
def script (s : Scan) : Script :=
  ⟨s.feature?, s.steps.reverse, s.exampleRows.reverse⟩

end Scan

/-- A line with its number. -/
abbrev NumberedLine :=
  List Char × Nat

/-- A doc string that has been opened and not yet closed. -/
structure OpenDoc where
  fence : Fence
  mediaType : List Char
  /-- The number of blanks before the fence. -/
  indent : Nat
  /-- The content so far, the latest line first. -/
  content : List (List Char) := []
deriving Repr, DecidableEq

/-- Drops at most `n` blanks at the start. -/
def Text.dropIndent : Nat → List Char → List Char
  | 0, cs => cs
  | _ + 1, [] => []
  | n + 1, c :: cs => if Text.isBlank c then Text.dropIndent n cs else c :: cs

namespace OpenDoc

/-- The doc string that a line opens, if it is a fence. -/
def of? (line : List Char) : Option OpenDoc :=
  match ScriptLine.of line with
  | .fence fence mediaType =>
    some { fence, mediaType, indent := (line.takeWhile Text.isBlank).length }
  | _ => none

/-- Adds a line of content. -/
def add (doc : OpenDoc) (line : List Char) : OpenDoc :=
  { doc with content := Text.dropIndent doc.indent line :: doc.content }

/-- The finished doc string. -/
def close (doc : OpenDoc) : DocString :=
  ⟨Scan.nonempty? doc.mediaType, String.ofList (Text.joinLines doc.content.reverse)⟩

end OpenDoc

/-- Where a scan stands in a script. -/
structure Position where
  scan : Scan
  /-- The doc string around the next line, if one is open, with the lines
  behind its fence up to the end of the script. -/
  doc? : Option (OpenDoc × List NumberedLine) := none
  /-- The lines to be read. -/
  rest : List NumberedLine
deriving Repr, DecidableEq

namespace Position

/-- Reads a line, or goes back behind the fence of a doc string that the end of
the script leaves open. The scan ends where nothing is left to read. -/
def next? (policy : ConjunctionPolicy) : Position → Option Position
  | ⟨_, none, []⟩ => none
  -- No line has closed the doc string, so what it has taken in is read as lines.
  | ⟨s, some (_, following), []⟩ => some ⟨s, none, following⟩
  | ⟨s, some (doc, following), (text, _) :: rest⟩ =>
    if doc.fence.closedBy text then some ⟨s.docString doc.close, none, rest⟩
    else some ⟨s, some (doc.add text, following), rest⟩
  | ⟨s, none, (text, number) :: rest⟩ =>
    match OpenDoc.of? text with
    | some doc => some ⟨s, some (doc, rest), rest⟩
    | none => some ⟨s.line policy text number, none, rest⟩

/-- What gets smaller with each step: the number of lines to which the scan
may still come back, and within a doc string the number of lines to read. -/
def toGo (p : Position) : Nat × Nat :=
  match p.doc? with
  | none => (p.rest.length, 0)
  | some (_, following) => (max following.length p.rest.length, p.rest.length + 1)

/-- With each move of a scan there is less to go. -/
theorem toGo_next? {policy : ConjunctionPolicy} {p q : Position}
    (h : p.next? policy = some q) : Prod.Lex (· < ·) (· < ·) q.toGo p.toGo := by
  rw [Prod.lex_def]
  match p, h with
  | ⟨_, some _, []⟩, h =>
      cases h
      simp [toGo]
  | ⟨_, some (doc, _), (text, _) :: _⟩, h =>
      simp only [next?] at h
      split at h <;> cases h <;> simp only [toGo, List.length_cons] <;> omega
  | ⟨_, none, (text, _) :: _⟩, h =>
      simp only [next?] at h
      split at h <;> cases h <;> simp [toGo]

/-- Scans to the end. -/
def run (policy : ConjunctionPolicy) (p : Position) : Scan :=
  match _ : p.next? policy with
  | none => p.scan
  | some q => q.run policy
termination_by p.toGo
decreasing_by exact toGo_next? ‹_›

end Position

/-- The steps of a script, with the title of its feature and its examples. -/
def Script.extract (policy : ConjunctionPolicy) (text : String) : Script :=
  let lines := (Text.lines text.toList).zipIdx 1
  (Position.run policy { scan := {}, rest := lines }).script

end ScenarioSteps

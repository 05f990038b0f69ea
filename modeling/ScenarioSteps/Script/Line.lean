import ScenarioSteps.Step.Kind
import ScenarioSteps.Text.Blank

/-!
# `ScenarioSteps.Script.Line`: the lines of a feature script

Each line of a script is of one class, whatever stands around it.

- Blank lines, comments (`#`) and tags (`@`) say nothing.
- A *fence*, three double quotes or three backticks, opens a doc string. What
  follows it on the line is the media type.
- A *row* begins with a bar and holds table cells.
- A *header* is one of nine words, a colon and a title.
- A *step* is a keyword, a blank and a sentence.
- All other lines are prose.

Blanks around a line never matter to its class.
-/

set_option autoImplicit false

namespace ScenarioSteps

/-- What is left of a text behind `start`, if it begins with it. -/
def Text.after? (start cs : List Char) : Option (List Char) :=
  if start.isPrefixOf cs then some (cs.drop start.length) else none

/-- The words that open a header. -/
inductive Header where
  | feature
  | rule
  | background
  | scenarioOutline
  | scenarioTemplate
  | scenario
  | examples
  | single
  | scenarios
deriving Repr, DecidableEq

namespace Header

/-- All headers. -/
def all : List Header :=
  [.feature, .rule, .background, .scenarioOutline, .scenarioTemplate, .scenario, .examples,
   .single, .scenarios]

/-- A header as a script writes it. -/
def text : Header → String
  | .feature => "Feature"
  | .rule => "Rule"
  | .background => "Background"
  | .scenarioOutline => "Scenario Outline"
  | .scenarioTemplate => "Scenario Template"
  | .scenario => "Scenario"
  | .examples => "Examples"
  | .single => "Example"
  | .scenarios => "Scenarios"

end Header

/-- The marks around a doc string. -/
inductive Fence where
  | quotes
  | backticks
deriving Repr, DecidableEq

namespace Fence

/-- A fence as a script writes it. -/
def text : Fence → List Char
  | .quotes => ['"', '"', '"']
  | .backticks => ['\x60', '\x60', '\x60']

/-- The fence that a trimmed text begins with, and what follows it. -/
def split? (cs : List Char) : Option (Fence × List Char) :=
  [quotes, backticks].findSome? fun f => (Text.after? f.text cs).map fun rest => (f, rest)

/-- Whether a line ends a doc string that began with the fence. -/
def closedBy (f : Fence) (line : List Char) : Bool :=
  f.text.isPrefixOf (Text.trimStart line)

end Fence

/-- Reads a step: a keyword, blanks, and a sentence on a single line. The text
may be longer than a line, but the sentence may not. -/
def stepLine? (text : List Char) : Option (Keyword × List Char) :=
  let text := Text.trim text
  Keyword.all.findSome? fun keyword => do
    let rest ← Text.after? keyword.text.toList text
    let sentence := Text.trimStart rest
    if (rest.head?.any Text.isBlank) && !sentence.isEmpty && !sentence.contains '\n' then
      some (keyword, sentence)
    else none

/-- Reads a header: its word, a colon with or without blanks before it, and a
title, which may be empty. -/
def headerLine? (line : List Char) : Option (Header × List Char) :=
  let line := Text.trim line
  Header.all.findSome? fun header => do
    let rest ← Text.after? header.text.toList line
    match Text.trimStart rest with
    | ':' :: title => some (header, Text.trim title)
    | _ => none

/-- The cells of a row behind a bar. `cell` holds what has been read of the
current cell, the latest character first. A backslash writes a bar, a line
feed or a backslash, and otherwise stands for itself. Each bar ends a cell,
and text behind the last bar is a cell of its own. -/
def rowCells (cell : List Char) : List Char → List (List Char)
  | [] =>
    let last := Text.trim cell.reverse
    if last.isEmpty then [] else [last]
  | '|' :: rest => Text.trim cell.reverse :: rowCells [] rest
  | '\\' :: '|' :: rest => rowCells ('|' :: cell) rest
  | '\\' :: 'n' :: rest => rowCells ('\n' :: cell) rest
  | '\\' :: '\\' :: rest => rowCells ('\\' :: cell) rest
  | '\\' :: other :: rest => rowCells (other :: '\\' :: cell) rest
  | c :: rest => rowCells (c :: cell) rest

/-- The cells of a trimmed line that begins with a bar. -/
def row? (line : List Char) : Option (List (List Char)) :=
  (Text.after? ['|'] line).map (rowCells [])

/-- The classes of lines. -/
inductive ScriptLine where
  /-- Blank, a comment or a tag. -/
  | silent
  | fence (fence : Fence) (mediaType : List Char)
  | row (cells : List (List Char))
  | header (header : Header) (title : List Char)
  | step (keyword : Keyword) (sentence : List Char)
  | prose
deriving Repr, DecidableEq

/-- The class of a line. -/
def ScriptLine.of (line : List Char) : ScriptLine :=
  let text := Text.trim line
  if text.isEmpty || text.head? == some '#' || text.head? == some '@' then .silent
  else
    match Fence.split? text with
    | some (mark, rest) => .fence mark (Text.trim rest)
    | none =>
      match row? text with
      | some cells => .row cells
      | none =>
        match headerLine? line with
        | some (word, title) => .header word title
        | none =>
          match stepLine? line with
          | some (keyword, sentence) => .step keyword sentence
          | none => .prose

end ScenarioSteps

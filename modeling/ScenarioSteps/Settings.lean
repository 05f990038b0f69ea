import ScenarioSteps.File.Assemble
import ScenarioSteps.Text.Printable
import ScenarioSteps.Toml.Read

/-!
# `ScenarioSteps.Settings`: the settings of a project

A settings file sets any of five keys, and what it leaves out keeps its
default. It is read strictly: no other key may stand in it, and every value
must have the type of its key. Options are named exactly, so a file accepts
fewer names than `Options.read`.

An option can also be written as a table whose one key is the name and whose
value is an empty table.

Entries are checked in the order of the document, and the first fault is the
one that is reported, with its line.
-/

set_option autoImplicit false

namespace ScenarioSteps

/-- The settings of a project. -/
structure Settings where
  options : Options := {}
  layout : Layout := {}
deriving Repr, DecidableEq

namespace Settings

/-! ### Faults -/

/-- Names in a message: the one, one of two, or one of several. -/
def alternatives (names : List String) : String :=
  let ticked := names.map fun name => "`" ++ name ++ "`"
  match ticked with
  | [a, b] => a ++ " or " ++ b
  | _ => if names.length ≤ 1 then String.join ticked else "one of " ++ ", ".intercalate ticked

/-- A value as a message names it when it has the wrong type. -/
def shownNode : Toml.Node → String
  | .scalar (.string text) => "string " ++ Text.shown text
  | .scalar (.integer n) => "integer `" ++ toString n ++ "`"
  | .scalar (.real x) => "floating point `" ++ x.shown ++ "`"
  | .scalar (.boolean b) => "boolean `" ++ toString b ++ "`"
  | .scalar .moment | .table .. => "map"
  | .array _ | .tables _ => "sequence"

/-- What is wrong with an entry, and the line where it is reported. -/
structure Mismatch where
  line : Nat
  detail : String
deriving Repr, DecidableEq

/-- A mismatch as a fault of a file. -/
def Mismatch.fault (source? : Option String) (m : Mismatch) : Fault :=
  { cause := .badSettings m.detail, place? := some { source?, line? := some m.line } }

/-! ### Values -/

/-- Reads the name of an option, which must be exact. -/
def readName {α : Type} (table : List (String × α)) (line : Nat) (name : String) :
    Except Mismatch α :=
  match table.lookup name with
  | some choice => .ok choice
  | none =>
    let expected := alternatives (table.map (·.1))
    .error ⟨line, "unknown variant `" ++ name ++ "`, expected " ++ expected⟩

/-- The line of a value below a key, where the table around it begins on line
`outer`. Tables without a header of their own have no line either. -/
def innerLine (outer : Nat) (key : Toml.Key) : Toml.Node → Nat
  | .table .implied _ | .table .dotted _ => outer
  | _ => key.line

/-- Whether a value is a table or an array without entries. -/
def isVoid : Toml.Node → Bool
  | .table _ entries => entries.isEmpty
  | .array items => items.isEmpty
  | _ => false

/-- Reads an option from its exact name, which may also be the one key of a
table. -/
def readChoice {α : Type} (table : List (String × α)) (line : Nat) :
    Toml.Node → Except Mismatch α
  | .scalar (.string name) => readName table line name
  | .table _ [(key, value)] => do
    let choice ← readName table key.line key.name
    if isVoid value then pure choice
    else throw ⟨innerLine line key value, "expected empty table"⟩
  | .table _ [] => .error ⟨line, "wanted exactly 1 element, found 0 elements"⟩
  | .table .. => .error ⟨line, "wanted exactly 1 element, more than 1 element"⟩
  | _ => .error ⟨line, "wanted string or table"⟩

/-- Reads a boolean. -/
def readFlag (line : Nat) : Toml.Node → Except Mismatch Bool
  | .scalar (.boolean b) => .ok b
  | node => .error ⟨line, "invalid type: " ++ shownNode node ++ ", expected a boolean"⟩

/-- The output targets by the names that a file may use. -/
def outputNames : List (String × OutputTarget) :=
  [("cucumber", .cucumber), ("playwright-bdd", .playwrightBdd), ("test-step", .playwrightBdd),
   ("generic", .generic), ("plain", .generic)]

/-- The execution targets by the names that a file may use. -/
def executionNames : List (String × ExecutionTarget) :=
  [("browser", .playwright), ("playwright", .playwright), ("component", .componentMount),
   ("component-mount", .componentMount)]

/-- The conjunction policies by the names that a file may use. -/
def conjunctionNames : List (String × ConjunctionPolicy) :=
  [("inherit", .inherit), ("always-when", .alwaysWhen)]

/-! ### Files -/

/-- The keys of a settings file. -/
def keys : List String :=
  ["output-target", "execution-target", "group-by-kind", "deduplicate", "conjunctions"]

/-- Sets what one entry of a file says. -/
def set (s : Settings) (key : Toml.Key) (value : Toml.Node) : Except Mismatch Settings :=
  match key.name with
  | "output-target" => do
    let output ← readChoice outputNames key.line value
    pure { s with options := { s.options with output } }
  | "execution-target" => do
    let execution ← readChoice executionNames key.line value
    pure { s with options := { s.options with execution } }
  | "group-by-kind" => do
    let groupByKind ← readFlag key.line value
    pure { s with layout := { s.layout with groupByKind } }
  | "deduplicate" => do
    let deduplicate ← readFlag key.line value
    pure { s with layout := { s.layout with deduplicate } }
  | "conjunctions" => do
    let conjunctions ← readChoice conjunctionNames key.line value
    pure { s with layout := { s.layout with conjunctions } }
  | name => .error ⟨key.line, "unknown field `" ++ name ++ "`, expected " ++ alternatives keys⟩

/-- The settings that the entries of a document make. -/
def ofEntries (entries : Toml.Entries) : Except Mismatch Settings :=
  entries.foldlM (fun s (key, value) => s.set key value) {}

/-- Reads settings from the text of a file, whose name faults carry. -/
def read (source? : Option String) (text : String) : Except Fault Settings :=
  let result :=
    match Toml.read text with
    | .ok entries => ofEntries entries
    | .error ⟨flaw, line⟩ => .error ⟨line, flaw.message⟩
  result.mapError (Mismatch.fault source?)

end Settings

end ScenarioSteps

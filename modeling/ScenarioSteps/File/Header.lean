import ScenarioSteps.Literal.Escape
import ScenarioSteps.Options

/-!
# `ScenarioSteps.File.Header`: the beginning of a generated file

A file begins with comments that say where it comes from, and with the imports
that its declarations need. Names that are imported from the same module stand
on one line.
-/

set_option autoImplicit false

namespace ScenarioSteps

/-- The names that a file imports, by module. -/
abbrev Imports :=
  List (String × List String)

/-- Adds names of a module that are not yet imported. -/
def Imports.add (imports : Imports) (module : String) (names : List String) : Imports :=
  match imports with
  | [] => [(module, names)]
  | (m, known) :: rest =>
    if m == module then (m, known ++ names.filter (!known.contains ·)) :: rest
    else (m, known) :: Imports.add rest module names

namespace Options

/-- What the syntax of declarations needs. -/
def syntaxImports : OutputTarget → Imports
  | .cucumber => [("@cucumber/cucumber", ["Given", "When", "Then"])]
  | .playwrightBdd => [("@playwright/test", ["test"])]
  | .generic => []

/-- What the idiom of bodies needs. -/
def idiomImports : ExecutionTarget → Imports
  | .playwright => [("@playwright/test", ["expect"])]
  | .componentMount =>
    [("@testing-library/vue", ["render", "screen", "fireEvent", "waitFor"]),
     ("vitest", ["expect", "vi"]), ("@/router", ["router"]), ("@/store", ["store"])]

/-- All imports of a file. -/
def imports (options : Options) : Imports :=
  (idiomImports options.execution).foldl (fun imports (module, names) => imports.add module names)
    (syntaxImports options.output)

end Options

/-- The line that imports names from a module. -/
def importLine (module : String) (names : List String) : String :=
  "import \x7b " ++ ", ".intercalate names ++ " \x7d from '" ++ module ++ "';\n"

/-- The comments and imports at the beginning of a file. -/
def fileHeader (filename : String) (feature? : Option String) (options : Options) : String :=
  let feature :=
    match feature? with
    | some title => "// Feature: " ++ Literal.escapeComment title ++ "\n"
    | none => ""
  "// Step definitions generated from " ++ Literal.escapeComment filename ++ " by stepforge.\n"
    ++ feature
    ++ "// Output target: " ++ options.output.name ++ ". Execution target: "
    ++ options.execution.name ++ ".\n"
    ++ "// Regenerate from the feature file instead of editing by hand.\n\n"
    ++ String.join (options.imports.map fun (module, names) => importLine module names)
    ++ "\n"

end ScenarioSteps

import ScenarioSteps.Command.Invocation

/-!
# `ScenarioSteps.Command.Parameter`: what an argument can set

A command line has two levels. In front of the name of a command stand common
parameters; behind it stand those of the command and, once more, the common
ones. `Level` says which parameters a level knows and by which names.

`Given` collects what one level sets. Each parameter can be given once on each
level, and `Given.accept` checks a value when it is given.
-/

set_option autoImplicit false

namespace ScenarioSteps.Command

/-- Why a command line leads to no command. -/
inductive Halt where
  /-- An option or an argument that the level does not know. -/
  | unknownArgument
  /-- A command that does not exist. -/
  | unknownCommand
  /-- An argument that the command needs is missing. -/
  | missingArgument
  /-- Nothing was given at all. -/
  | nothingGiven
  /-- Something was given, but no command. -/
  | missingCommand
  /-- An option without its value, or a path without a character. -/
  | missingValue
  /-- A value that the option does not have. -/
  | badValue
  /-- A parameter was given twice on one level. -/
  | repeated
  /-- A flag was given a value. -/
  | unneededValue
  /-- The help text was asked for. -/
  | help
  /-- The version was asked for. -/
  | version
deriving Repr, DecidableEq

/-- The help text. -/
def usage : String :=
  "\n".intercalate
    ["Compile Given/When/Then step sentences into test code", "",
     "Usage: stepforge [OPTIONS] COMMAND", "",
     "Commands:",
     "  generate SCRIPT  Declare all steps of a script",
     "                   [-o FILE] [--group-by-kind] [--deduplicate]",
     "  step TEXT        Declare one step",
     "  list             List the patterns [--json] [--tag TAG]",
     "  search QUERY     Rank the patterns that mention a query [--json]", "",
     "Options:",
     "  --config FILE            Settings file (default: ./stepforge.toml if present)",
     "  --output-target NAME     cucumber, playwright-bdd or generic",
     "  --execution-target NAME  playwright or component-mount",
     "  --conjunctions NAME      inherit or always-when",
     "  -v, --verbose            Say more about the run",
     "  -h, --help               Print this text",
     "  -V, --version            Print the version"]

/-- A halt in words. -/
def Halt.message : Halt → String
  | .unknownArgument => "unknown argument"
  | .unknownCommand => "unknown command"
  | .missingArgument => "a required argument is missing"
  | .nothingGiven => usage
  | .missingCommand => "a command is required"
  | .missingValue => "an option lacks its value"
  | .badValue => "an option has an unknown value"
  | .repeated => "an option was given twice"
  | .unneededValue => "a flag takes no value"
  | .help => usage
  | .version => "stepforge 1.0"

/-- What an argument can set or ask for. -/
inductive Parameter where
  | settings
  | outputTarget
  | executionTarget
  | conjunctions
  | verbose
  | help
  | version
  | outputFile
  | groupByKind
  | deduplicate
  | json
  | tag
  /-- The argument of `generate`. -/
  | script
  /-- The argument of `step` or `search`. -/
  | text
deriving Repr, DecidableEq

/-- Whether a parameter comes with a value. -/
def Parameter.takesValue : Parameter → Bool
  | .settings | .outputTarget | .executionTarget | .conjunctions => true
  | .outputFile | .tag | .script | .text => true
  | .verbose | .help | .version | .groupByKind | .deduplicate | .json => false

/-- What one level of a command line sets. -/
structure Given where
  settings? : Option String := none
  output? : Option OutputTarget := none
  execution? : Option ExecutionTarget := none
  conjunctions? : Option ConjunctionPolicy := none
  verbose : Bool := false
  outputFile? : Option String := none
  groupByKind : Bool := false
  deduplicate : Bool := false
  json : Bool := false
  tag? : Option String := none
  argument? : Option String := none
deriving Repr, DecidableEq

namespace Given

/-- Sets what is not set yet. -/
def once {α : Type} (old? : Option α) (read : Except Halt α) : Except Halt (Option α) :=
  match old? with
  | some _ => .error .repeated
  | none => read.map some

/-- Switches a flag on that is still off. -/
def raise (flag : Bool) : Except Halt Bool :=
  if flag then .error .repeated else .ok true

/-- A path has at least one character. -/
def readPath (path : String) : Except Halt String :=
  if path.isEmpty then .error .missingValue else .ok path

/-- Reads the name of an option. -/
def readOption {α : Type} (read : String → Except Fault α) (name : String) : Except Halt α :=
  (read name).mapError fun _ => .badValue

/-- Takes in a parameter with its value, which is not looked at for a flag. -/
def accept (g : Given) (parameter : Parameter) (value : String) : Except Halt Given :=
  match parameter with
  | .settings => (once g.settings? (readPath value)).map ({ g with settings? := · })
  | .outputTarget =>
    (once g.output? (readOption OutputTarget.read value)).map ({ g with output? := · })
  | .executionTarget =>
    (once g.execution? (readOption ExecutionTarget.read value)).map ({ g with execution? := · })
  | .conjunctions =>
    (once g.conjunctions? (readOption ConjunctionPolicy.read value)).map
      ({ g with conjunctions? := · })
  | .verbose => (raise g.verbose).map ({ g with verbose := · })
  | .help => .error .help
  | .version => .error .version
  | .outputFile => (once g.outputFile? (readPath value)).map ({ g with outputFile? := · })
  | .groupByKind => (raise g.groupByKind).map ({ g with groupByKind := · })
  | .deduplicate => (raise g.deduplicate).map ({ g with deduplicate := · })
  | .json => (raise g.json).map ({ g with json := · })
  | .tag => (once g.tag? (.ok value)).map ({ g with tag? := · })
  | .script => (once g.argument? (readPath value)).map ({ g with argument? := · })
  | .text => (once g.argument? (.ok value)).map ({ g with argument? := · })

end Given

/-- A level of a command line. -/
structure Level where
  /-- The parameters behind two hyphens. -/
  long : List (String × Parameter)
  /-- The parameters behind one hyphen. -/
  short : List (Char × Parameter)
  /-- What an argument without a hyphen sets. -/
  argument? : Option Parameter := none
  /-- The commands that can follow. -/
  commands : List String := []
deriving Repr, DecidableEq

/-- The parameters of both levels, by their long names. -/
def commonLong : List (String × Parameter) :=
  [("config", .settings), ("output-target", .outputTarget),
   ("execution-target", .executionTarget), ("conjunctions", .conjunctions),
   ("verbose", .verbose), ("help", .help)]

/-- The parameters of both levels, by their short names. -/
def commonShort : List (Char × Parameter) :=
  [('v', .verbose), ('h', .help)]

/-- The command that asks for help about other commands. -/
def helpCommand : String := "help"

/-- The level in front of the name of a command. -/
def rootLevel : Level where
  long := commonLong ++ [("version", .version)]
  short := commonShort ++ [('V', .version)]
  commands := ["generate", "step", "list", "search", helpCommand]

/-- The level behind the name of a command. -/
def commandLevel (name : String) : Level :=
  match name with
  | "generate" =>
    { long := commonLong ++
        [("output", .outputFile), ("group-by-kind", .groupByKind), ("deduplicate", .deduplicate)]
      short := commonShort ++ [('o', .outputFile)]
      argument? := some .script }
  | "step" => { long := commonLong, short := commonShort, argument? := some .text }
  | "search" =>
    { long := commonLong ++ [("json", .json)], short := commonShort, argument? := some .text }
  | _ => { long := commonLong ++ [("json", .json), ("tag", .tag)], short := commonShort }

end ScenarioSteps.Command

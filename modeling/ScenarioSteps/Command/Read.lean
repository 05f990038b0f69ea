import ScenarioSteps.Command.Parameter

/-!
# `ScenarioSteps.Command.Read`: reading a command line

The arguments of a level are read from left to right. A value that stands in
an argument of its own is only kept at first (`Reading.pending?`), and is
checked when the next parameter is recognised or the level ends; so an unknown
argument behind a bad value is what is reported. A value that is attached to
its option is checked at once. The level of the command is read to its end
before the last value in front of the command is checked.

An option waits for its value in the next argument. Any argument that looks
like an option is read as one even then, but the name of a command is not.
Two hyphens alone say that no option follows.
-/

set_option autoImplicit false

namespace ScenarioSteps.Command

/-- A parameter whose value has not been checked, or is still to come. -/
structure Pending where
  parameter : Parameter
  value? : Option String
deriving Repr, DecidableEq

/-- What has been read of a level. -/
structure Reading where
  given : Given := {}
  pending? : Option Pending := none
  /-- Whether the argument without a hyphen has been seen. -/
  argumentSeen : Bool := false
deriving Repr, DecidableEq

namespace Reading

/-- Checks the value that was kept. -/
def settle (r : Reading) : Except Halt Reading :=
  match r.pending? with
  | none => .ok r
  | some ⟨_, none⟩ => .error .missingValue
  | some ⟨parameter, some value⟩ =>
    (r.given.accept parameter value).map ({ r with given := ·, pending? := none })

/-- Takes in a parameter whose value is at hand. -/
def take (r : Reading) (parameter : Parameter) (value : String) : Except Halt Reading := do
  let r ← r.settle
  let given ← r.given.accept parameter value
  return { r with given }

/-- Waits for the value of a parameter. -/
def await (r : Reading) (parameter : Parameter) : Except Halt Reading :=
  r.settle.map ({ · with pending? := some ⟨parameter, none⟩ })

/-- Takes in an option with a value, which may be attached to it. -/
def takeOption (r : Reading) (parameter : Parameter) (attached? : Option String) :
    Except Halt Reading :=
  match attached? with
  | some value => r.take parameter value
  | none => r.await parameter

/-- Takes in an argument behind two hyphens. -/
def takeLong (level : Level) (r : Reading) (body : List Char) : Except Halt Reading :=
  let name := String.ofList (body.takeWhile (· != '='))
  let attached? := (body.dropWhile (· != '=')).tail?.map String.ofList
  match level.long.lookup name with
  | none => .error .unknownArgument
  | some parameter =>
    if parameter.takesValue then r.takeOption parameter attached?
    else if attached?.isSome then .error .unneededValue
    else r.take parameter ""

/-- Takes in letters behind one hyphen. What follows the letter of an option is
its value, in front of which one equals sign may stand. -/
def takeShort (level : Level) (r : Reading) : List Char → Except Halt Reading
  | [] => .ok r
  | letter :: rest =>
    match level.short.lookup letter with
    | none => .error .unknownArgument
    | some parameter =>
      if parameter.takesValue then
        match rest with
        | [] => r.takeOption parameter none
        | '=' :: value => r.takeOption parameter (some (String.ofList value))
        | value => r.takeOption parameter (some (String.ofList value))
      else do
        let r ← r.take parameter ""
        takeShort level r rest

/-- Takes in an argument that is neither an option nor the value of one.
`plain` says that no option can follow. -/
def takeArgument (level : Level) (plain : Bool) (r : Reading) (argument : String) :
    Except Halt Reading :=
  match level.argument? with
  | some parameter =>
    if r.argumentSeen then .error .unknownArgument
    else
      r.settle.map
        ({ · with pending? := some ⟨parameter, some argument⟩, argumentSeen := true })
  | none =>
    if level.commands.isEmpty || (plain && level.commands.contains argument) then
      .error .unknownArgument
    else .error .unknownCommand

/-- Takes in an argument in front of which options may stand. -/
def takeWord (level : Level) (r : Reading) (argument : String) : Except Halt Reading :=
  match argument.toList, r.pending? with
  | '-' :: '-' :: body, _ => takeLong level r body
  | '-' :: letter :: letters, _ => takeShort level r (letter :: letters)
  | _, some ⟨parameter, none⟩ => .ok { r with pending? := some ⟨parameter, some argument⟩ }
  | _, _ => takeArgument level false r argument

/-- Whether an option waits for its value. -/
def isWaiting (r : Reading) : Bool :=
  match r.pending? with
  | some ⟨_, none⟩ => true
  | _ => false

end Reading

/-- Reads arguments up to the name of a command: what was read, and the command
with the arguments behind it. -/
def readLevel (level : Level) (r : Reading) :
    List String → Except Halt (Reading × Option (String × List String))
  | [] => .ok (r, none)
  | argument :: rest =>
    if !r.isWaiting && level.commands.contains argument then .ok (r, some (argument, rest))
    else if argument == "--" then
      (rest.foldlM (Reading.takeArgument level true) r).map (·, none)
    else do
      let r ← r.takeWord level argument
      readLevel level r rest

/-- The argument that a command needs. -/
def Given.argument (g : Given) : Except Halt String :=
  match g.argument? with
  | some value => .ok value
  | none => .error .missingArgument

/-- The command of a name, with what its level sets. -/
def ofGiven (name : String) (g : Given) : Except Halt Command :=
  match name with
  | "generate" =>
    g.argument.map fun script => .generate script g.outputFile? g.groupByKind g.deduplicate
  | "step" => g.argument.map .step
  | "search" => g.argument.map fun query => .search query g.json
  | _ => .ok (.list g.json g.tag?)

/-- The halt that the words behind `help` lead to. Only the name of a command
can stand there, since commands have no commands of their own. -/
def helpOn : List String → Halt
  | [] => .help
  | [name] => if rootLevel.commands.contains name then .help else .unknownCommand
  | _ => .unknownCommand

/-- Reads the level behind the name of a command. -/
def readCommand (name : String) (arguments : List String) : Except Halt (Given × Command) := do
  let (reading, _) ← readLevel (commandLevel name) {} arguments
  let reading ← reading.settle
  let command ← ofGiven name reading.given
  return (reading.given, command)

/-- An invocation from both levels. What stands behind the command wins. -/
def merge (outer inner : Given) (command : Command) : Invocation where
  settings? := inner.settings? <|> outer.settings?
  output? := inner.output? <|> outer.output?
  execution? := inner.execution? <|> outer.execution?
  conjunctions? := inner.conjunctions? <|> outer.conjunctions?
  command := command

/-- Reads a command line. -/
def read (arguments : List String) : Except Halt Invocation := do
  let (reading, command?) ← readLevel rootLevel {} arguments
  match command? with
  | none =>
    let reading ← reading.settle
    throw (if reading.given == {} then .nothingGiven else .missingCommand)
  | some (name, rest) =>
    if name == helpCommand then throw (helpOn rest)
    else
      let (inner, command) ← readCommand name rest
      let reading ← reading.settle
      return merge reading.given inner command

end ScenarioSteps.Command

import ScenarioSteps.Command.Read
import ScenarioSteps.Command.Run

/-!
# `ScenarioSteps.Main`: the program

The program reads its command line, runs the command on the disk and the
console, and says with its exit code how that went: zero for success, one for
a fault of the run, two for a command line that leads to no command.
-/

set_option autoImplicit false

namespace ScenarioSteps

/-- What the system says about a file operation. Some operations negate its
codes. -/
def describeError : IO.Error → String
  | .noFileOrDirectory .. => Obstacle.missing.message
  | .inappropriateType _ code _ =>
    let notDirectory := code == 20 || -code == 20
    (if notDirectory then Obstacle.notDirectory else Obstacle.isDirectory).message
  | error => toString error

/-- A file operation, with its failure as text. -/
def attempt {α : Type} (operation : IO α) : IO (Except String α) := do
  match ← operation.toBaseIO with
  | .ok value => return .ok value
  | .error error => return .error (describeError error)

/-- The disk and the console. -/
def diskAndConsole : Surroundings IO where
  isFile path := do
    let found ← attempt (System.mkFilePath [path]).metadata
    return found.toOption.any (·.type == .file)
  read path := do
    let content ← attempt (IO.FS.readBinFile path)
    return content.bind fun bytes =>
      match String.fromUTF8? bytes with
      | some text => .ok text
      | none => .error Obstacle.notText.message
  write path text := attempt (IO.FS.writeFile path text)
  print text := IO.print text

/-- A fault as the program shows it. -/
def Fault.text (fault : Fault) : String :=
  match fault.place? with
  | some place => fault.cause.message ++ " (" ++ place.text ++ ")"
  | none => fault.cause.message

/-- Runs a command line on the disk and the console. -/
def runCommandLine (arguments : List String) : IO UInt32 := do
  match Command.read arguments with
  | .error halt =>
    if halt == .help || halt == .version then
      IO.println halt.message
      return 0
    else
      IO.eprintln halt.message
      return 2
  | .ok invocation =>
    let result ←
      match Registry.standard with
      | .ok r => (invocation.run r diskAndConsole).run
      | .error fault => pure (.error fault)
    match result with
    | .ok () => return 0
    | .error fault =>
      IO.eprintln ("\x1b[31mError: " ++ fault.text ++ "\x1b[0m")
      return 1

end ScenarioSteps

/-- The program. -/
def main (arguments : List String) : IO UInt32 :=
  ScenarioSteps.runCommandLine arguments

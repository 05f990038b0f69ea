import ScenarioSteps.Catalog.Standard
import ScenarioSteps.Command.Files
import ScenarioSteps.Command.Invocation
import ScenarioSteps.Command.Listing

/-!
# `ScenarioSteps.Command.Run`: running a command

A command is run in surroundings that can read files, write files and print.
Surroundings are given by their operations in some monad, so the same run
happens on a disk or in a `Workspace`, a state that can be looked at.

A run first reads the settings, then does what the command says. Each run
prints once or writes one file, and does so last; a run with a fault does
neither.
-/

set_option autoImplicit false

namespace ScenarioSteps

/-- What a run needs. The faults of files are in the words of the system. -/
structure Surroundings (m : Type → Type) where
  isFile : String → m Bool
  read : String → m (Except String String)
  write : String → String → m (Except String Unit)
  print : String → m Unit

/-- The settings file that is read if it exists. -/
def projectSettings : String := "./stepforge.toml"

namespace Surroundings

variable {m : Type → Type} [Monad m] (around : Surroundings m)

/-- What a file operation has to say, as a fault at the file. -/
def atFile {α : Type} (path : String) (operation : m (Except String α)) : ExceptT Fault m α :=
  ExceptT.mk do
    let result ← operation
    return result.mapError fun detail =>
      { cause := .fileAccess detail, place? := some { source? := some path } }

/-- Reads settings from a file. -/
def readSettings (path : String) : ExceptT Fault m Settings := do
  let text ← atFile path (around.read path)
  ExceptT.mk (pure (Settings.read (some path) text))

/-- The settings of the project: from the file that is named, else from the
usual file, else the defaults. -/
def settings (named? : Option String) : ExceptT Fault m Settings :=
  match named? with
  | some path => around.readSettings path
  | none => do
    if ← (around.isFile projectSettings : m Bool) then around.readSettings projectSettings
    else return {}

end Surroundings

/-- What a command prints that neither reads nor writes a file. -/
def Registry.report (r : Registry) (options : Options) : Command → String
  | .generate .. => ""
  | .step text => r.declareText options text ++ "\n"
  | .list json tag? =>
    Listing.ofEntries json ((tag?.map r.withTag).getD r.entries)
  | .search query json => Listing.ofHits json (r.search query)

/-- Runs an invocation with the patterns of a registry. -/
def Invocation.run {m : Type → Type} [Monad m] (inv : Invocation) (r : Registry)
    (around : Surroundings m) : ExceptT Fault m Unit := do
  let settings := inv.resolve (← around.settings inv.settings?)
  match inv.command with
  | .generate script output? _ _ =>
    let text ← Surroundings.atFile script (around.read script)
    let file := r.assemble settings.layout settings.options (fileName script) text
    match output? with
    | some path => Surroundings.atFile path (around.write path file)
    | none => around.print file
  | command => around.print (r.report settings.options command)

/-! ### Runs in a state -/

/-- Files, and what has been printed. -/
structure Workspace where
  files : Files := {}
  printed : String := ""
deriving Repr, DecidableEq

namespace Workspace

/-- A workspace as surroundings. -/
def surroundings : Surroundings (StateM Workspace) where
  isFile path := return (← get).files.isFile path
  read path := return (← get).files.read path |>.mapError Obstacle.message
  write path text := do
    match (← get).files.write path text with
    | .ok files =>
      modify fun w => { w with files }
      return .ok ()
    | .error obstacle => return .error obstacle.message
  print text := modify fun w => { w with printed := w.printed ++ text }

/-- Runs an invocation in a workspace: how it ends, and the workspace after. -/
def run (w : Workspace) (inv : Invocation) (r : Registry) : Except Fault Unit × Workspace :=
  (inv.run r surroundings).run.run w

end Workspace

end ScenarioSteps

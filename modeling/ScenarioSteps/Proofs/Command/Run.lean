import ScenarioSteps.Command.Run
import ScenarioSteps.Proofs.Command.Files

/-!
# `ScenarioSteps.Proofs.Command.Run`: what a run leaves behind

What a run looks at is a `View`: which paths are files, and their texts. The view alone
decides what the run has to say, a text or a fault (`Invocation.outcome`). In surroundings
that are `Careful` a run is its outcome on the view at the start, and then the delivery of
the text (`run_eq_of_careful`). So all faults but that of a failed write come before the
first effect, and a failed write has none.

`run_effects` says this of runs that fail, and compares the runs of `generate` with and
without a file for the output.
-/

set_option autoImplicit false

namespace ScenarioSteps

/-! ### What a run looks at -/

/-- What can be seen of files: which paths are files, and their texts. -/
structure View where
  isFile : String → Bool
  read : String → Except String String

namespace View

variable (view : View)

/-- The text of a file, or the fault of having none. -/
def textAt (path : String) : Except Fault String :=
  (view.read path).mapError fun detail =>
    { cause := .fileAccess detail, place? := some { source? := some path } }

/-- The settings in a file. -/
def settingsAt (path : String) : Except Fault Settings :=
  view.textAt path >>= Settings.read (some path)

/-- The settings of the project: from the file that is named, else from the usual file,
else the defaults. -/
def settings : Option String → Except Fault Settings
  | some path => view.settingsAt path
  | none => if view.isFile projectSettings then view.settingsAt projectSettings else .ok {}

end View

/-- A tree of files as it is seen. -/
def Files.view (files : Files) : View where
  isFile := files.isFile
  read path := (files.read path).mapError Obstacle.message

namespace Invocation

/-- What a run has to say about what it sees. -/
def outcome (inv : Invocation) (r : Registry) (view : View) : Except Fault String := do
  let settings := inv.resolve (← view.settings inv.settings?)
  match inv.command with
  | .generate script _ _ _ =>
    let text ← view.textAt script
    return r.assemble settings.layout settings.options (fileName script) text
  | command => return r.report settings.options command

/-- The file for the output, where the command names one. -/
def target? (inv : Invocation) : Option String :=
  match inv.command with
  | .generate _ output? _ _ => output?
  | _ => none

end Invocation

namespace Surroundings

variable {m : Type → Type} [Monad m]

/-- Prints a text, or writes it to a file. -/
def deliver (around : Surroundings m) (target? : Option String) (text : String) :
    ExceptT Fault m Unit :=
  match target? with
  | some path => atFile path (around.write path text)
  | none => around.print text

variable {σ : Type}

/-- Surroundings in a state that is not changed by looking at files, nor by a write that
fails. -/
structure Careful (around : Surroundings (StateM σ)) : Prop where
  isFile_state : ∀ path s, ((around.isFile path).run s).2 = s
  read_state : ∀ path s, ((around.read path).run s).2 = s
  write_state : ∀ path text s detail,
    ((around.write path text).run s).1 = .error detail → ((around.write path text).run s).2 = s

/-- What is seen in a state. -/
def view (around : Surroundings (StateM σ)) (s : σ) : View where
  isFile path := ((around.isFile path).run s).1
  read path := ((around.read path).run s).1

/-- A computation that leaves the state goes on with its result in the same state. -/
theorem run_bind_of_unchanged {α β : Type} {action : ExceptT Fault (StateM σ) α}
    {result : Except Fault α} {s : σ} (next : α → ExceptT Fault (StateM σ) β) :
    action.run.run s = (result, s) →
      (action >>= next).run.run s
        = match result with
          | .error fault => (.error fault, s)
          | .ok value => (next value).run.run s := by
  intro h
  rw [ExceptT.run_bind, StateT.run_bind, h]
  cases result with
  | error fault => rfl
  | ok value => rfl

namespace Careful

variable {around : Surroundings (StateM σ)} (hcareful : around.Careful)
include hcareful

/-- To read a file changes nothing, and answers what the view shows. -/
theorem run_read (path : String) (s : σ) :
    (atFile path (around.read path)).run.run s = ((around.view s).textAt path, s) :=
  Prod.ext rfl (hcareful.read_state path s)

/-- So does to read a file with settings. -/
theorem run_readSettings (path : String) (s : σ) :
    (around.readSettings path).run.run s = ((around.view s).settingsAt path, s) := by
  rw [readSettings, run_bind_of_unchanged _ (hcareful.run_read path s), View.settingsAt]
  cases (around.view s).textAt path with
  | error fault => rfl
  | ok text => rfl

/-- So does to ask whether a path is a file. -/
theorem run_isFile (path : String) (s : σ) :
    (around.isFile path : ExceptT Fault (StateM σ) Bool).run.run s
      = (.ok ((around.view s).isFile path), s) :=
  Prod.ext rfl (hcareful.isFile_state path s)

/-- So does to find the settings of a run. -/
theorem run_settings (named? : Option String) (s : σ) :
    (around.settings named?).run.run s = ((around.view s).settings named?, s) := by
  cases named? with
  | some path => exact hcareful.run_readSettings path s
  | none =>
      rw [settings, run_bind_of_unchanged _ (hcareful.run_isFile projectSettings s)]
      simp only [View.settings]
      split
      · exact hcareful.run_readSettings projectSettings s
      · rfl

/-- A delivery that fails leaves the state. -/
theorem deliver_of_error {target? : Option String} {text : String} {s : σ} {fault : Fault}
    (h : ((around.deliver target? text).run.run s).1 = .error fault) :
    ((around.deliver target? text).run.run s).2 = s := by
  cases target? with
  | none => cases h
  | some path =>
      have hwrite : ((around.write path text).run s).1.mapError _ = .error fault := h
      cases hresult : ((around.write path text).run s).1 with
      | ok done => rw [hresult] at hwrite; cases hwrite
      | error detail => exact hcareful.write_state path text s detail hresult

end Careful

end Surroundings

namespace Invocation

/-- A run says what there is to say about what it sees at the start, and says it last. -/
theorem run_eq_of_careful {σ : Type} {around : Surroundings (StateM σ)}
    (hcareful : around.Careful) (inv : Invocation) (r : Registry) (s : σ) :
    (inv.run r around).run.run s
      = match inv.outcome r (around.view s) with
        | .error fault => (.error fault, s)
        | .ok text => (around.deliver inv.target? text).run.run s := by
  -- The settings and the script are read in the state of the start, so they are those seen.
  rw [run, Surroundings.run_bind_of_unchanged _ (hcareful.run_settings inv.settings? s), outcome]
  cases (around.view s).settings inv.settings? with
  | error fault => rfl
  | ok settings =>
      simp only [target?]
      cases inv.command with
      | generate script output? groupByKind deduplicate =>
          simp only
          rw [Surroundings.run_bind_of_unchanged _ (hcareful.run_read script s)]
          simp only [bind, Except.bind]
          cases (around.view s).textAt script with
          | error fault => rfl
          | ok text => cases output? <;> rfl
      | step text => rfl
      | list json tag? => rfl
      | search query json => rfl

/-- A run that fails leaves the state. -/
theorem run_of_error {σ : Type} {around : Surroundings (StateM σ)}
    (hcareful : around.Careful) {inv : Invocation} {r : Registry} {s : σ} {fault : Fault}
    (h : ((inv.run r around).run.run s).1 = .error fault) :
    ((inv.run r around).run.run s).2 = s := by
  rw [run_eq_of_careful hcareful] at h ⊢
  cases houtcome : inv.outcome r (around.view s) with
  | error fault => rfl
  | ok text =>
      rw [houtcome] at h
      exact hcareful.deliver_of_error h

end Invocation

namespace Workspace

/-- A write in a workspace. -/
theorem run_write (path text : String) (w : Workspace) :
    (surroundings.write path text).run w
      = match w.files.write path text with
        | .error obstacle => (.error obstacle.message, w)
        | .ok files => (.ok (), { w with files }) := by
  simp only [surroundings, StateT.run_bind, StateT.run_get, pure_bind]
  cases w.files.write path text with
  | error obstacle => rfl
  | ok files => rfl

/-- The modelled files are careful surroundings. -/
theorem careful_surroundings : surroundings.Careful where
  isFile_state _ _ := rfl
  read_state _ _ := rfl
  write_state path text w detail h := by
    rw [run_write] at h ⊢
    cases hwrite : w.files.write path text with
    | ok files => rw [hwrite] at h; cases h
    | error obstacle => rfl

/-- A run in a workspace. -/
theorem run_eq (w : Workspace) (inv : Invocation) (r : Registry) :
    w.run inv r
      = match inv.outcome r w.files.view with
        | .error fault => (.error fault, w)
        | .ok text => (surroundings.deliver inv.target? text).run.run w :=
  Invocation.run_eq_of_careful careful_surroundings inv r w

/-- A text goes to a file to which something can be written, and to no other place. -/
theorem run_deliver_of_writable {w : Workspace} {path : String} (h : w.files.Writable path)
    (text : String) :
    ∃ files, (surroundings.deliver (some path) text).run.run w = (.ok (), { w with files })
      ∧ files.read path = .ok text
      ∧ ∀ place, w.files.locate path ≠ .ok place → files.find? place = w.files.find? place := by
  obtain ⟨files, hwrite⟩ := h.exists_write text
  refine ⟨files, ?_, Files.read_of_write hwrite, fun place => Files.find?_of_write hwrite⟩
  have hrun : (surroundings.write path text).run w = (.ok (), { w with files }) := by
    rw [run_write, hwrite]
  simp only [Surroundings.deliver, Surroundings.atFile, ExceptT.run_mk, StateT.run_bind, hrun]
  rfl

end Workspace

namespace Invocation

/-- What `generate` has to say is the file for a script, wherever it goes to. -/
theorem outcome_of_generate {inv : Invocation} {r : Registry} {files : Files} {script : String}
    {output? : Option String} {groupByKind deduplicate : Bool} {file : String}
    (hcommand : inv.command = .generate script output? groupByKind deduplicate)
    (h : inv.outcome r files.view = .ok file) :
    ∃ settings text,
      files.view.settings inv.settings? = .ok settings ∧ files.read script = .ok text
      ∧ file = r.assemble (inv.resolve settings).layout (inv.resolve settings).options
          (fileName script) text := by
  rw [outcome, hcommand] at h
  -- A run with an outcome has got past both reads.
  cases hsettings : files.view.settings inv.settings? with
  | error fault => rw [hsettings] at h; cases h
  | ok settings =>
      rw [hsettings] at h
      cases hread : files.read script with
      | error obstacle =>
          simp [View.textAt, Files.view, hread, bind, Except.bind, Except.mapError] at h
      | ok text =>
          simp [View.textAt, Files.view, hread, bind, Except.bind, Except.mapError, pure,
            Except.pure] at h
          exact ⟨settings, text, rfl, rfl, h.symm⟩

/-- A run that fails has no effect, neither in a workspace nor in any careful
surroundings. A run of `generate` that succeeds prints the file for the script under the
settings that hold. The same run with a path for the output prints nothing, leaves that
file at the path and leaves all other places as they are. -/
theorem run_effects (inv : Invocation) (r : Registry) :
    (∀ {σ : Type} (around : Surroundings (StateM σ)), around.Careful → ∀ s fault,
      ((inv.run r around).run.run s).1 = .error fault → ((inv.run r around).run.run s).2 = s)
    ∧ (∀ (w : Workspace) fault, (w.run inv r).1 = .error fault → (w.run inv r).2 = w)
    ∧ ∀ (w : Workspace) (script : String) (groupByKind deduplicate : Bool),
        inv.command = .generate script none groupByKind deduplicate →
        (w.run inv r).1 = .ok () →
        ∃ settings text,
          w.files.view.settings inv.settings? = .ok settings ∧ w.files.read script = .ok text
          ∧ let resolved := inv.resolve settings
            let file := r.assemble resolved.layout resolved.options (fileName script) text
            w.run inv r = (.ok (), { w with printed := w.printed ++ file })
            ∧ ∀ path, w.files.Writable path →
                ∃ files,
                  w.run
                      { inv with
                        command := .generate script (some path) groupByKind deduplicate } r
                    = (.ok (), { w with files })
                  ∧ files.read path = .ok file
                  ∧ ∀ place, w.files.locate path ≠ .ok place →
                      files.find? place = w.files.find? place := by
  refine ⟨fun around hcareful s fault => run_of_error hcareful,
    fun w fault => run_of_error Workspace.careful_surroundings, ?_⟩
  intro w script groupByKind deduplicate hcommand hok
  rw [Workspace.run_eq] at hok ⊢
  cases houtcome : inv.outcome r w.files.view with
  | error fault => rw [houtcome] at hok; cases hok
  | ok file =>
      obtain ⟨settings, text, hsettings, hread, rfl⟩ := outcome_of_generate hcommand houtcome
      refine ⟨settings, text, hsettings, hread, ?_, fun path hwritable => ?_⟩
      · simp only [target?, hcommand]
        rfl
      · -- What there is to say does not depend on where it goes to.
        have hsame : ({ inv with command := .generate script (some path) groupByKind deduplicate }
            : Invocation).outcome r w.files.view = inv.outcome r w.files.view := by
          simp only [outcome, resolve, layoutFlags, hcommand]
        rw [Workspace.run_eq, hsame, houtcome]
        exact Workspace.run_deliver_of_writable hwritable _

/-- A script with settings beside it. -/
def scriptBesideSettings : Files :=
  .ofList [("a.feature", some "Given a user\nAnd a user\n"),
    ("stepforge.toml", some "deduplicate = true\noutput-target = \"plain\"\n")]

/-- The settings of the project stand beside the script. -/
theorem locate_projectSettings :
    scriptBesideSettings.locate projectSettings = .ok ["stepforge.toml"] := by
  have hnames : Files.names projectSettings = [".", "stepforge.toml"] := by decide
  rw [Files.locate_of_relative _ (by simp [projectSettings]) (by decide)
    (by simp [projectSettings]) (by simp [projectSettings]), hnames]
  rfl

/-- The other script is missing. -/
theorem read_missing : scriptBesideSettings.read "b.feature" = .error .missing := by
  have hnames : Files.names "b.feature" = ["b.feature"] := by decide
  rw [Files.read, Files.locate_of_relative _ (by simp) (by decide) (by simp) (by simp), hnames]
  rfl

/-- The script has two steps. -/
theorem read_script :
    scriptBesideSettings.read "a.feature" = .ok "Given a user\nAnd a user\n" := by
  have hnames : Files.names "a.feature" = ["a.feature"] := by decide
  rw [Files.read, Files.locate_of_relative _ (by simp) (by decide) (by simp) (by simp), hnames]
  rfl

/-- The settings can be written to. -/
theorem writable_projectSettings : scriptBesideSettings.Writable projectSettings := by
  have hbare : String.ofList (projectSettings.toList.reverse.dropWhile (· == '/')).reverse
      = projectSettings := by decide
  refine ⟨"", scriptBesideSettings.put ["stepforge.toml"] (some ""), ?_⟩
  simp only [Files.write, hbare, ite_self, locate_projectSettings]
  rfl

/-- They choose the generic target and drop repeated steps. -/
theorem settings_scriptBesideSettings :
    scriptBesideSettings.view.settings none
      = .ok { options := { output := .generic }, layout := { deduplicate := true } } := by
  have hfile : scriptBesideSettings.isFile projectSettings = true := by
    rw [Files.isFile, locate_projectSettings]
    rfl
  have hread : scriptBesideSettings.read projectSettings
      = .ok "deduplicate = true\noutput-target = \"plain\"\n" := by
    rw [Files.read, locate_projectSettings]
    rfl
  simp only [View.settings, View.settingsAt, View.textAt, Files.view, hfile, hread, if_true]
  rfl

/-- A run without its script has no effect. One with it can put its output over the very
settings that it read. -/
theorem run_effects_on_settings :
    let w : Workspace := { files := scriptBesideSettings }
    (w.run { command := .generate "b.feature" none false false } .empty).2 = w
    ∧ Workspace.surroundings.Careful
    ∧ ((Invocation.run { command := .generate "b.feature" none false false } .empty
          Workspace.surroundings).run.run w).2 = w
    ∧ ∃ files,
        w.run { command := .generate "a.feature" (some projectSettings) false false } .empty
          = (.ok (), { w with files })
        ∧ files.read projectSettings
          = .ok (Registry.assemble .empty { deduplicate := true } { output := .generic }
              "a.feature" "Given a user\nAnd a user\n")
        ∧ files.find? ["a.feature"] = some (some "Given a user\nAnd a user\n") := by
  intro w
  have hmissing : (w.run { command := .generate "b.feature" none false false } .empty).1
      = .error ⟨.fileAccess Obstacle.missing.message, some { source? := some "b.feature" }⟩ := by
    rw [Workspace.run_eq, outcome, settings_scriptBesideSettings]
    simp only [View.textAt, Files.view, read_missing, bind, Except.bind, Except.mapError, w]
  have hok : (w.run { command := .generate "a.feature" none false false } .empty).1 = .ok () := by
    rw [Workspace.run_eq, outcome, settings_scriptBesideSettings]
    simp only [View.textAt, Files.view, read_script, bind, Except.bind, Except.mapError, w]
    rfl
  -- The script of one run is missing, and that of the other is there.
  obtain ⟨hcareful, hworkspace, -⟩ :=
    run_effects { command := .generate "b.feature" none false false } .empty
  obtain ⟨settings, text, hsettings, htext, -, hfile⟩ :=
    (run_effects { command := .generate "a.feature" none false false } .empty).2.2
      w "a.feature" false false rfl hok
  -- What the run has read is what the files hold.
  cases settings_scriptBesideSettings.symm.trans hsettings
  cases read_script.symm.trans htext
  obtain ⟨files, hrun, hwritten, hothers⟩ := hfile projectSettings writable_projectSettings
  have hcareful' := Workspace.careful_surroundings
  have hname : fileName "a.feature" = "a.feature" := by decide
  have hplace : scriptBesideSettings.locate projectSettings ≠ .ok ["a.feature"] := by
    rw [locate_projectSettings]
    simp
  refine ⟨hworkspace w _ hmissing, hcareful', hcareful _ hcareful' w _ hmissing,
    files, hrun, ?_, ?_⟩
  · rw [hname] at hwritten
    exact hwritten
  · rw [hothers _ hplace]
    rfl

end Invocation

end ScenarioSteps

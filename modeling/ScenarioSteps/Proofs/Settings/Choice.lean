import ScenarioSteps.Proofs.Toml.Keys
import ScenarioSteps.Settings

/-!
# `ScenarioSteps.Proofs.Settings.Choice`: a named choice in a settings file

Three settings are chosen by a name: the two targets and the conjunction policy. They are
taken together here, by their `OptionAxis`. What a file says of such a setting, and what
it says of all else, can be read apart (`toOption_read`): the entries of a document set
different fields, so the order in which they are taken in does not matter.
-/

set_option autoImplicit false

namespace ScenarioSteps

namespace OptionAxis

/-- The choices of a setting. -/
def Choice : OptionAxis → Type
  | .outputTarget => OutputTarget
  | .executionTarget => ExecutionTarget
  | .conjunctions => ConjunctionPolicy

/-- The key of a setting in a file. -/
def key : OptionAxis → String
  | .outputTarget => "output-target"
  | .executionTarget => "execution-target"
  | .conjunctions => "conjunctions"

/-- The choices by the names that a file may use. -/
def fileNames : (axis : OptionAxis) → List (String × axis.Choice)
  | .outputTarget => Settings.outputNames
  | .executionTarget => Settings.executionNames
  | .conjunctions => Settings.conjunctionNames

/-- What is chosen in settings. -/
def chosen : (axis : OptionAxis) → Settings → axis.Choice
  | .outputTarget, s => s.options.output
  | .executionTarget, s => s.options.execution
  | .conjunctions, s => s.layout.conjunctions

/-- Settings with another choice. -/
def choose : (axis : OptionAxis) → axis.Choice → Settings → Settings
  | .outputTarget, output, s => { s with options := { s.options with output } }
  | .executionTarget, execution, s => { s with options := { s.options with execution } }
  | .conjunctions, policy, s => { s with layout := { s.layout with conjunctions := policy } }

/-- What is chosen is the choice afterwards. -/
theorem chosen_choose (axis : OptionAxis) (choice : axis.Choice) (s : Settings) :
    axis.chosen (axis.choose choice s) = choice := by
  cases axis <;> rfl

end OptionAxis

namespace Settings

/-! ### Entries one by one -/

/-- The key of a named choice makes that choice. -/
theorem set_key (axis : OptionAxis) (s : Settings) (line : Nat) (value : Toml.Node) :
    s.set ⟨axis.key, line⟩ value
      = (readChoice axis.fileNames line value).map (axis.choose · s) := by
  cases axis with
  | outputTarget => exact (map_eq_pure_bind _ _).symm
  | executionTarget => exact (map_eq_pure_bind _ _).symm
  | conjunctions => exact (map_eq_pure_bind _ _).symm

/-- Every other key leaves that choice alone, and does not depend on it. -/
theorem set_choose (axis : OptionAxis) (choice : axis.Choice) (s : Settings) {key : Toml.Key}
    (hkey : key.name ≠ axis.key) (value : Toml.Node) :
    (axis.choose choice s).set key value = (s.set key value).map (axis.choose choice) := by
  unfold set
  -- One case for each key of a file. The key of the choice itself is not among them.
  split
  · cases axis with
    | outputTarget => exact absurd ‹_› hkey
    | executionTarget => cases readChoice outputNames key.line value <;> rfl
    | conjunctions => cases readChoice outputNames key.line value <;> rfl
  · cases axis with
    | outputTarget => cases readChoice executionNames key.line value <;> rfl
    | executionTarget => exact absurd ‹_› hkey
    | conjunctions => cases readChoice executionNames key.line value <;> rfl
  · cases axis <;> cases readFlag key.line value <;> rfl
  · cases axis <;> cases readFlag key.line value <;> rfl
  · cases axis with
    | outputTarget => cases readChoice conjunctionNames key.line value <;> rfl
    | executionTarget => cases readChoice conjunctionNames key.line value <;> rfl
    | conjunctions => exact absurd ‹_› hkey
  · rfl

/-! ### Entries together -/

/-- Settings after some more entries. -/
def extend (s : Settings) (entries : Toml.Entries) : Except Mismatch Settings :=
  entries.foldlM (fun s (key, value) => s.set key value) s

/-- Entries of two lists are taken in one list after the other. -/
theorem extend_append (s : Settings) (before after : Toml.Entries) :
    s.extend (before ++ after) = s.extend before >>= (extend · after) :=
  List.foldlM_append

/-- Entries without the key of a choice do not depend on that choice. -/
theorem extend_choose (axis : OptionAxis) (choice : axis.Choice) (s : Settings)
    {entries : Toml.Entries} (hkeys : axis.key ∉ entries.names) :
    (axis.choose choice s).extend entries = (s.extend entries).map (axis.choose choice) := by
  induction entries generalizing s with
  | nil => rfl
  | cons entry rest ih =>
      obtain ⟨hkey, hrest⟩ := not_or.mp (mt List.mem_cons.mpr hkeys)
      have hset := set_choose axis choice s (Ne.symm hkey) entry.2
      simp only [extend, List.foldlM_cons] at ih ⊢
      rw [hset]
      cases s.set entry.1 entry.2 with
      | error mismatch => rfl
      | ok next => exact ih next hrest

/-- What an entry chooses and what the others set are independent. -/
theorem toOption_extend (axis : OptionAxis) (s : Settings) (before after : Toml.Entries)
    (line : Nat) (value : Toml.Node) (hafter : axis.key ∉ after.names) :
    (s.extend (before ++ (⟨axis.key, line⟩, value) :: after)).toOption
      = (s.extend (before ++ after)).toOption.bind fun base =>
          (readChoice axis.fileNames line value).toOption.map (axis.choose · base) := by
  -- A fault among the first entries, at the key or behind it is a fault on both sides. Which
  -- one is reported depends on the order, and so faults are not compared.
  rw [extend_append, extend_append]
  cases s.extend before with
  | error mismatch => rfl
  | ok next =>
      show (next.set ⟨axis.key, line⟩ value >>= (extend · after)).toOption
        = (next.extend after).toOption.bind _
      rw [set_key]
      cases readChoice axis.fileNames line value with
      | error mismatch => cases next.extend after <;> rfl
      | ok choice =>
          show ((axis.choose choice next).extend after).toOption = _
          rw [extend_choose axis choice next hafter]
          cases next.extend after <;> rfl

/-! ### Files -/

/-- A document that has a name under a key. -/
def Gives (text key name : String) : Prop :=
  ∃ entries, Toml.read text = .ok entries ∧ entries.get? key = some (.scalar (.string name))

/-- The settings that a document makes without what stands under a key. -/
def readWithout (key text : String) : Option Settings :=
  (Toml.read text).toOption.bind fun entries => (ofEntries (entries.remove key)).toOption

/-- A file with a name under the key of a choice makes the choice of that name, and
otherwise the settings that it makes without the key. -/
theorem toOption_read (axis : OptionAxis) (source? : Option String) {text name : String}
    (h : Gives text axis.key name) :
    (read source? text).toOption
      = (readWithout axis.key text).bind fun base =>
          (axis.fileNames.lookup name).map (axis.choose · base) := by
  obtain ⟨entries, hread, hget⟩ := h
  -- A file has each key once, so the other entries do not speak of the choice.
  obtain ⟨before, line, after, hsplit, hremove, hafter⟩ :=
    (Toml.distinct_of_read hread).exists_split hget
  have hname : (readChoice axis.fileNames line (.scalar (.string name))).toOption
      = axis.fileNames.lookup name := by
    simp only [readChoice, readName]
    cases axis.fileNames.lookup name <;> rfl
  have hofEntries : (read source? text).toOption = (ofEntries entries).toOption := by
    rw [read, hread]
    show ((ofEntries entries).mapError _).toOption = _
    cases ofEntries entries <;> rfl
  have hwithout : readWithout axis.key text = (ofEntries (entries.remove axis.key)).toOption := by
    rw [readWithout, hread]
    rfl
  rw [hofEntries, hwithout, hremove, hsplit, ← hname]
  exact toOption_extend axis {} before after line _ hafter

end Settings

end ScenarioSteps

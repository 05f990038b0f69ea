import ScenarioSteps.Command.Read
import ScenarioSteps.Proofs.Settings.Choice
import ScenarioSteps.Proofs.Text.LetterCase
import ScenarioSteps.Proofs.Toml.Written

/-!
# `ScenarioSteps.Proofs.Command.Choice`: a named choice, in a file and on a command line

A settings file and a command line take the names of a choice from two tables. A flag
compares names without blanks around them and without regard to case (`onLine_flag`), and a
file takes them exactly (`inFile_eq`). On names that are written as they are compared the
tables are the same but for one name of each setting (`lookup_fileNames`).

`file_and_flag` puts this together for every file that has a name under the key and every
flag with that name. `capital_in_file_and_flag` is a name on which the two differ.
-/

set_option autoImplicit false

namespace ScenarioSteps

/-! ### Names as they are compared -/

/-- A name as it is compared stays as it is. -/
theorem optionName_optionName (name : String) : optionName (optionName name) = optionName name := by
  have hlower : Char.toLower ∘ Char.toLower = Char.toLower := funext toLower_toLower
  unfold optionName
  rw [String.toList_ofList, Text.trim_map isBlank_toLower, Text.trim_trim, List.map_map, hlower]

namespace OptionAxis

/-- The parameter of a setting on a command line. -/
def parameter : OptionAxis → Command.Parameter
  | .outputTarget => .outputTarget
  | .executionTarget => .executionTarget
  | .conjunctions => .conjunctions

/-- The choices by the names that a command line may use. -/
def flagNames : (axis : OptionAxis) → List (String × axis.Choice)
  | .outputTarget => OutputTarget.names
  | .executionTarget => ExecutionTarget.names
  | .conjunctions => ConjunctionPolicy.names

/-- What a command line chooses. -/
def given? : (axis : OptionAxis) → Invocation → Option axis.Choice
  | .outputTarget, inv => inv.output?
  | .executionTarget, inv => inv.execution?
  | .conjunctions, inv => inv.conjunctions?

/-- The name that only a command line reads. -/
def flagOnly : OptionAxis → String
  | .outputTarget => "cucumber-js"
  | .executionTarget => "testing-library"
  | .conjunctions => "when"

/-- An invocation with a choice. -/
def give : (axis : OptionAxis) → axis.Choice → Invocation → Invocation
  | .outputTarget, output, inv => { inv with output? := some output }
  | .executionTarget, execution, inv => { inv with execution? := some execution }
  | .conjunctions, policy, inv => { inv with conjunctions? := some policy }

/-- The argument that gives a name to a setting. -/
def flag (axis : OptionAxis) (name : String) : String :=
  "--" ++ axis.key ++ "=" ++ name

/-- A choice that is given is found again. -/
theorem given?_give (axis : OptionAxis) (choice : axis.Choice) (inv : Invocation) :
    axis.given? (axis.give choice inv) = some choice := by
  cases axis <;> rfl

/-- A flag is two hyphens, the key, and the name behind an equals sign. -/
theorem toList_flag (axis : OptionAxis) (name : String) :
    (axis.flag name).toList = '-' :: '-' :: (axis.key.toList ++ '=' :: name.toList) := by
  simp [flag]

/-- What a level of a command line chooses. -/
def setting? : (axis : OptionAxis) → Command.Given → Option axis.Choice
  | .outputTarget, g => g.output?
  | .executionTarget, g => g.execution?
  | .conjunctions, g => g.conjunctions?

/-- A level with a choice. -/
def set : (axis : OptionAxis) → Command.Given → Option axis.Choice → Command.Given
  | .outputTarget, g, output? => { g with output? }
  | .executionTarget, g, execution? => { g with execution? }
  | .conjunctions, g, conjunctions? => { g with conjunctions? }

end OptionAxis

namespace Command

/-- Where nothing is set yet, a name from the table sets its choice. -/
theorem once_readOption {α : Type} (axis : OptionAxis) (table : List (String × α))
    (name : String) :
    Given.once none (Given.readOption (ScenarioSteps.readOption axis table) name)
      = match table.lookup (optionName name) with
        | some choice => .ok (some choice)
        | none => .error .badValue := by
  unfold Given.once Given.readOption ScenarioSteps.readOption
  cases table.lookup (optionName name) <;> rfl

/-- Wherever a parameter is given for the first time, it sets the choice of its name. -/
theorem accept_parameter (axis : OptionAxis) {g : Given} (hfree : axis.setting? g = none)
    (name : String) :
    g.accept axis.parameter name
      = match axis.flagNames.lookup (optionName name) with
        | some choice => .ok (axis.set g (some choice))
        | none => .error .badValue := by
  have haccept : g.accept axis.parameter name
      = (Given.once (axis.setting? g)
          (Given.readOption (ScenarioSteps.readOption axis axis.flagNames) name)).map
            (axis.set g) := by
    cases axis <;> rfl
  rw [haccept, hfree, once_readOption]
  cases axis.flagNames.lookup (optionName name) <;> rfl

/-- A flag with a name sets the choice of that name, or stops the reading. -/
theorem takeWord_flag (axis : OptionAxis) (name : String) :
    Reading.takeWord rootLevel {} (axis.flag name)
      = match axis.flagNames.lookup (optionName name) with
        | some choice => .ok { given := axis.set {} (some choice) }
        | none => .error .badValue := by
  have hall : axis.key.toList.all (· != '=') = true := by
    cases axis <;> rfl
  have hkey : ∀ c ∈ axis.key.toList, (c != '=') = true := List.all_eq_true.mp hall
  have hlong : rootLevel.long.lookup axis.key = some axis.parameter := by
    cases axis <;> decide
  have hvalue : axis.parameter.takesValue = true := by
    cases axis <;> rfl
  have hfree : axis.setting? {} = none := by
    cases axis <;> rfl
  have htake : Reading.take {} axis.parameter name
      = (Given.accept {} axis.parameter name).map fun given => { given } := by
    show (Given.accept {} axis.parameter name >>= fun given => _) = _
    cases Given.accept {} axis.parameter name <;> rfl
  -- The first equals sign is the one behind the key, which has none.
  have hname : (axis.key.toList ++ '=' :: name.toList).takeWhile (· != '=') = axis.key.toList := by
    rw [List.takeWhile_append_of_pos hkey, List.takeWhile_cons_of_neg (by decide),
      List.append_nil]
  have hrest : (axis.key.toList ++ '=' :: name.toList).dropWhile (· != '=')
      = '=' :: name.toList := by
    rw [List.dropWhile_append_of_pos hkey, List.dropWhile_cons_of_neg (by decide)]
  simp only [Reading.takeWord, axis.toList_flag, Reading.takeLong, hname, hrest,
    String.ofList_toList, hlong, hvalue, if_true, List.tail?_cons, Option.map_some,
    Reading.takeOption, htake,
    accept_parameter axis hfree]
  cases axis.flagNames.lookup (optionName name) <;> rfl

/-- A choice in front of a command holds where the command does not choose. -/
theorem merge_set (axis : OptionAxis) (choice : axis.Choice) {inner : Given} {command : Command}
    (hfree : axis.given? (merge {} inner command) = none) :
    merge (axis.set {} (some choice)) inner command
      = axis.give choice (merge {} inner command) := by
  obtain ⟨_, output?, execution?, conjunctions?⟩ := inner
  -- The command leaves the setting open, so what stands in front of it holds.
  cases axis with
  | outputTarget =>
      cases output? with
      | none => rfl
      | some output => cases hfree
  | executionTarget =>
      cases execution? with
      | none => rfl
      | some execution => cases hfree
  | conjunctions =>
      cases conjunctions? with
      | none => rfl
      | some policy => cases hfree

section

variable {command : String} {rest : List String} (hcommand : command ∈ rootLevel.commands)
include hcommand

/-- A level ends with the name of a command. -/
theorem readLevel_command {r : Reading} (hpending : r.pending? = none) :
    readLevel rootLevel r (command :: rest) = .ok (r, some (command, rest)) := by
  simp [readLevel, Reading.isWaiting, hpending, hcommand]

/-- In front of a command, a flag sets the choice that its name stands for among the names of
flags. -/
theorem readLevel_flag (axis : OptionAxis) (name : String) :
    readLevel rootLevel {} (axis.flag name :: command :: rest)
      = match axis.flagNames.lookup (optionName name) with
        | some choice => .ok ({ given := axis.set {} (some choice) }, some (command, rest))
        | none => .error .badValue := by
  -- A flag begins with a hyphen, so it is no command. It goes on behind two hyphens, so it is no
  -- separator.
  have hother : rootLevel.commands.contains (axis.flag name) = false := by
    have hnone : ∀ command ∈ rootLevel.commands, command.toList.head? ≠ some '-' := by
      decide
    rw [← Bool.not_eq_true, List.contains_iff_mem]
    intro hmem
    exact hnone _ hmem (by rw [axis.toList_flag, List.head?_cons])
  have hhyphens : (axis.flag name == "--") = false := by
    rw [beq_eq_false_iff_ne]
    intro heq
    have htwo := congrArg String.toList heq
    rw [axis.toList_flag] at htwo
    simp at htwo
  rw [readLevel, hother, hhyphens, takeWord_flag]
  simp only [Bool.and_false, Bool.false_eq_true, if_false]
  cases axis.flagNames.lookup (optionName name) with
  | none => rfl
  | some choice => exact readLevel_command hcommand rfl

/-- In front of a command, a flag with a name adds the choice of that name. -/
theorem read_flag (axis : OptionAxis) (name : String) {inv : Invocation}
    (hread : read (command :: rest) = .ok inv) (hfree : axis.given? inv = none) :
    read (axis.flag name :: command :: rest)
      = match axis.flagNames.lookup (optionName name) with
        | some choice => .ok (axis.give choice inv)
        | none => .error .badValue := by
  rw [read, readLevel_command hcommand rfl] at hread
  rw [read, readLevel_flag hcommand]
  cases axis.flagNames.lookup (optionName name) with
  | none => rfl
  | some choice =>
      simp only [bind, Except.bind] at hread ⊢
      split at hread
      · cases hread
      · next hhelp =>
          rw [if_neg hhelp]
          -- What the command itself reads is the same with the flag and without it.
          cases hinner : readCommand command rest with
          | error halt => rw [hinner] at hread; cases hread
          | ok result =>
              rw [hinner] at hread
              cases hread
              exact congrArg Except.ok (merge_set axis choice hfree)

end

end Command

/-! ### Both tables -/

namespace OptionAxis

instance (axis : OptionAxis) : DecidableEq axis.Choice :=
  match axis with
  | .outputTarget => inferInstanceAs (DecidableEq OutputTarget)
  | .executionTarget => inferInstanceAs (DecidableEq ExecutionTarget)
  | .conjunctions => inferInstanceAs (DecidableEq ConjunctionPolicy)

variable (axis : OptionAxis)

/-- What a look-up finds stands in the table. -/
theorem mem_of_lookup {α : Type} {table : List (String × α)} {name : String} {choice : α}
    (h : table.lookup name = some choice) : (name, choice) ∈ table := by
  obtain ⟨before, after, rfl, -⟩ := List.lookup_eq_some_iff.mp h
  exact List.mem_append_right before List.mem_cons_self

/-- A name for files is written as it is compared, and a name for command lines with the same
choice. -/
theorem lookup_flagNames_of_file {name : String} {choice : axis.Choice}
    (h : axis.fileNames.lookup name = some choice) :
    optionName name = name ∧ axis.flagNames.lookup name = some choice := by
  have htable : ∀ entry ∈ axis.fileNames,
      optionName entry.1 = entry.1 ∧ axis.flagNames.lookup entry.1 = some entry.2 := by
    cases axis <;> decide
  exact htable (name, choice) (mem_of_lookup h)

/-- But for one name, the names for command lines are those for files. -/
theorem lookup_fileNames {name : String} (hne : name ≠ axis.flagOnly) :
    axis.fileNames.lookup name = axis.flagNames.lookup name := by
  have htable : ∀ entry ∈ axis.flagNames,
      entry.1 = axis.flagOnly ∨ axis.fileNames.lookup entry.1 = some entry.2 := by
    cases axis <;> decide
  refine Option.ext fun choice => ⟨fun h => (axis.lookup_flagNames_of_file h).2, fun h => ?_⟩
  exact (htable _ (mem_of_lookup h)).resolve_left hne

/-! ### A file and a command line -/

/-- What a settings file chooses, if it can be read. -/
def inFile (source? : Option String) (text : String) : Option axis.Choice :=
  (Settings.read source? text).toOption.map axis.chosen

/-- What a command line chooses, if it leads to a command. -/
def onLine (arguments : List String) : Option axis.Choice :=
  (Command.read arguments).toOption.bind axis.given?

/-- A file with a name under the key chooses what the name stands for, if all else in it is in
order. -/
theorem inFile_eq (source? : Option String) {text name : String}
    (h : Settings.Gives text axis.key name) :
    axis.inFile source? text
      = (Settings.readWithout axis.key text).bind fun _ => axis.fileNames.lookup name := by
  rw [inFile, Settings.toOption_read axis source? h]
  cases Settings.readWithout axis.key text with
  | none => rfl
  | some base =>
      show ((axis.fileNames.lookup name).map (axis.choose · base)).map axis.chosen
        = axis.fileNames.lookup name
      rw [Option.map_map]
      have hchosen : axis.chosen ∘ (axis.choose · base) = id :=
        funext fun choice => axis.chosen_choose choice base
      rw [hchosen, Option.map_id_fun, id]

/-- A command line with the flag chooses what the name stands for once blanks and case are
left out. -/
theorem onLine_flag {command : String} {rest : List String} {inv : Invocation}
    (hcommand : command ∈ Command.rootLevel.commands)
    (hread : Command.read (command :: rest) = .ok inv) (hfree : axis.given? inv = none)
    (name : String) :
    axis.onLine (axis.flag name :: command :: rest) = axis.flagNames.lookup (optionName name) := by
  rw [onLine, Command.read_flag hcommand axis name hread hfree]
  cases axis.flagNames.lookup (optionName name) with
  | none => rfl
  | some choice => exact axis.given?_give choice inv

/-- There is a file for every name. -/
theorem exists_gives (name : String) :
    ∃ text, Settings.Gives text axis.key name
      ∧ (Settings.readWithout axis.key text).isSome = true := by
  have hall : axis.key.toList.all Toml.isKeyChar = true := by
    cases axis <;> rfl
  have hkey : ∀ c ∈ axis.key.toList, Toml.isKeyChar c = true := List.all_eq_true.mp hall
  have hne : axis.key.toList ≠ [] := by
    cases axis <;> decide
  have hread := Toml.read_written hkey hne name
  refine ⟨Toml.written axis.key name, ⟨_, hread, by simp [Toml.Entries.get?]⟩, ?_⟩
  have hremove : Toml.Entries.remove [(⟨axis.key, 1⟩, .scalar (.string name))] axis.key = [] := by
    simp [Toml.Entries.remove]
  rw [Settings.readWithout, hread]
  show (Settings.ofEntries (Toml.Entries.remove _ _)).toOption.isSome = true
  rw [hremove]
  rfl

/-- A flag takes a name without blanks around it and in small letters as it takes the name
itself, wherever it is given. A file takes names exactly, and whatever name it accepts the
flag takes for the same choice. A name that is written as it is compared leads to the same
in a file without other faults and behind a flag, but for one name of each setting of which
nothing is said. There is such a file for every name. -/
theorem file_and_flag (name : String) :
    (∃ text, Settings.Gives text axis.key name
      ∧ (Settings.readWithout axis.key text).isSome = true)
    ∧ ∀ (command : String) (rest : List String) (inv : Invocation),
        command ∈ Command.rootLevel.commands → Command.read (command :: rest) = .ok inv →
        axis.given? inv = none →
        let flag := fun name => axis.onLine (axis.flag name :: command :: rest)
        flag (optionName name) = flag name
        ∧ (∀ g, axis.setting? g = none →
            (g.accept axis.parameter name).toOption.bind axis.setting? = flag name)
        ∧ ∀ (source? : Option String) (text : String), Settings.Gives text axis.key name →
            (∀ choice, axis.inFile source? text = some choice →
              optionName name = name ∧ flag name = some choice)
            ∧ ((Settings.readWithout axis.key text).isSome = true → optionName name = name →
                name ≠ axis.flagOnly → axis.inFile source? text = flag name) := by
  refine ⟨axis.exists_gives name, fun command rest inv hcommand hread hfree => ?_⟩
  simp only [axis.onLine_flag hcommand hread hfree, optionName_optionName, true_and]
  refine ⟨fun g hg => ?_, fun source? text hgives => ⟨fun choice hfile => ?_, ?_⟩⟩
  · rw [Command.accept_parameter axis hg]
    cases axis.flagNames.lookup (optionName name) with
    | none => rfl
    | some choice => cases axis <;> rfl
  -- A choice from the file is one of its names, which the flag knows.
  · rw [axis.inFile_eq source? hgives] at hfile
    obtain ⟨base, -, hlookup⟩ := Option.bind_eq_some_iff.mp hfile
    obtain ⟨hname, hflag⟩ := axis.lookup_flagNames_of_file hlookup
    exact ⟨hname, by rw [hname, hflag]⟩
  · intro hothers hname hne
    obtain ⟨base, hbase⟩ := Option.isSome_iff_exists.mp hothers
    rw [axis.inFile_eq source? hgives, hbase, hname]
    exact axis.lookup_fileNames hne

/-- A document with a second name for a target beside another setting. -/
theorem gives_test_step :
    Settings.Gives "deduplicate = true\noutput-target = \"test-step\"\n" outputTarget.key
      "test-step" :=
  ⟨[(⟨"deduplicate", 1⟩, .scalar (.boolean true)),
    (⟨"output-target", 2⟩, .scalar (.string "test-step"))], by rfl, by rfl⟩

/-- A second name leads to the same in a file and behind a flag, which also takes it with a
blank and a capital. -/
theorem test_step_in_file_and_flag :
    "list" ∈ Command.rootLevel.commands
    ∧ Command.read ["list", "--json"] = .ok { command := .list true none }
    ∧ outputTarget.given? { command := .list true none } = none
    ∧ outputTarget.setting? { verbose := true } = none
    ∧ optionName "test-step" = "test-step" ∧ "test-step" ≠ outputTarget.flagOnly
    ∧ outputTarget.inFile none "deduplicate = true\noutput-target = \"test-step\"\n"
      = some OutputTarget.playwrightBdd
    ∧ outputTarget.onLine [outputTarget.flag "test-step", "list", "--json"]
      = some OutputTarget.playwrightBdd
    ∧ outputTarget.onLine [outputTarget.flag " Test-step", "list", "--json"]
      = some OutputTarget.playwrightBdd := by
  have hcommand : "list" ∈ Command.rootLevel.commands := by decide
  have hread : Command.read ["list", "--json"] = .ok { command := .list true none } := by rfl
  have hname : optionName "test-step" = "test-step" := by decide
  have hother : optionName " Test-step" = "test-step" := by decide
  have hne : "test-step" ≠ outputTarget.flagOnly := by decide
  have hfile : outputTarget.inFile none "deduplicate = true\noutput-target = \"test-step\"\n"
      = some OutputTarget.playwrightBdd := by
    rw [outputTarget.inFile_eq none gives_test_step]
    rfl
  obtain ⟨-, hagree⟩ := outputTarget.file_and_flag "test-step"
  obtain ⟨-, -, hboth⟩ := hagree "list" ["--json"] _ hcommand hread rfl
  have hflag := ((hboth none _ gives_test_step).2 (by rfl) hname hne).symm.trans hfile
  -- With a blank and a capital, the flag takes the name as the one without.
  obtain ⟨-, hspaced⟩ := outputTarget.file_and_flag " Test-step"
  have hsame := (hspaced "list" ["--json"] _ hcommand hread rfl).1
  simp only [hother] at hsame
  exact ⟨hcommand, hread, rfl, rfl, hname, hne, hfile, hflag, hsame.symm.trans hflag⟩

/-- A flag takes a name with a capital, and a file does not. -/
theorem capital_in_file_and_flag :
    Settings.Gives "output-target = \"Cucumber\"\n" outputTarget.key "Cucumber"
    ∧ (Settings.readWithout outputTarget.key "output-target = \"Cucumber\"\n").isSome = true
    ∧ outputTarget.inFile none "output-target = \"Cucumber\"\n" = none
    ∧ outputTarget.onLine [outputTarget.flag "Cucumber", "list"] = some OutputTarget.cucumber := by
  have hgives : Settings.Gives "output-target = \"Cucumber\"\n" outputTarget.key "Cucumber" :=
    ⟨[(⟨"output-target", 1⟩, .scalar (.string "Cucumber"))], by rfl, by rfl⟩
  have hread : Command.read ["list"] = .ok { command := .list false none } := by rfl
  refine ⟨hgives, by rfl, ?_, ?_⟩
  · rw [outputTarget.inFile_eq none hgives]
    rfl
  · have hname : optionName "Cucumber" = "cucumber" := by decide
    rw [outputTarget.onLine_flag (by decide) hread rfl, hname]
    rfl

end OptionAxis

end ScenarioSteps

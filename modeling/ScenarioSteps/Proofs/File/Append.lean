import ScenarioSteps.File.Assemble
import ScenarioSteps.Proofs.Script.Append

/-!
# `ScenarioSteps.Proofs.File.Append`: the file for one script behind another

A file without blocks lists the declarations of all steps in the order of the script. A
declaration does not name the line of its step (`Registry.declareStep_moved`). So where two
scripts can stand one behind the other (`Script.Apart`), the file for both is the file for
the first with the declarations for the second behind it.
-/

set_option autoImplicit false

namespace ScenarioSteps.Registry

/-- A step is declared alike wherever it stands. -/
theorem declareStep_moved (r : Registry) (options : Options) (n : Nat) (step : ScriptStep) :
    r.declareStep options (step.moved n) = r.declareStep options step :=
  rfl

/-- Without blocks, and with all steps in their order, a file is its header and the
declarations one after another. -/
theorem assemble_eq_join (r : Registry) {layout : Layout} (hgroup : layout.groupByKind = false)
    (hdeduplicate : layout.deduplicate = false) {options : Options}
    (htarget : options.output ≠ .playwrightBdd) (filename text : String) :
    let script := Script.extract layout.conjunctions text
    r.assemble layout options filename text
      = fileHeader filename script.feature? options
        ++ String.join (script.steps.map fun step => "\n" ++ r.declareStep options step ++ "\n") := by
  intro script
  have harrange : layout.arrange script.steps = script.steps := by
    simp only [Layout.arrange, hgroup, hdeduplicate, Bool.false_eq_true, if_false]
  rw [assemble]
  cases houtput : options.output with
  | playwrightBdd => exact absurd houtput htarget
  | cucumber | generic =>
      show _ ++ String.join ((layout.arrange script.steps).map _) = _
      rw [harrange]

/-- Scripts compose. If the first one ends with a line and leaves no fence open, and the second
one begins with a scenario or a background and names no feature, both together yield the
feature of the first, the steps of the first and then of the second, which stand further down
by the lines of the first, and the example rows of the first and then of the second. A file
without blocks that keeps all steps in their order is the file for the first script and then
the declarations for the second. -/
theorem assemble_append {a b : String} (h : Script.Apart a b) :
    (∀ policy,
        let first := Script.extract policy a
        let second := Script.extract policy b
        Script.extract policy (a ++ b)
          = { feature? := first.feature?
              steps := first.steps
                ++ second.steps.map fun step =>
                  { step with line := step.line + (Text.lines a.toList).length }
              exampleRows := first.exampleRows ++ second.exampleRows })
      ∧ ∀ (r : Registry) (layout : Layout) (options : Options) (filename : String),
        layout.groupByKind = false → layout.deduplicate = false →
        options.output ≠ .playwrightBdd →
        r.assemble layout options filename (a ++ b)
          = r.assemble layout options filename a
            ++ String.join ((Script.extract layout.conjunctions b).steps.map fun step =>
              "\n" ++ r.declareStep options step ++ "\n") := by
  refine ⟨Script.extract_append h, fun r layout options filename hgroup hdeduplicate htarget => ?_⟩
  rw [r.assemble_eq_join hgroup hdeduplicate htarget, r.assemble_eq_join hgroup hdeduplicate htarget,
    Script.extract_append h]
  -- The feature is that of the first script, so both files have the same header.
  simp only [List.map_append, List.map_map, Function.comp_def, declareStep_moved, String.join_append,
    String.append_assoc]

/-- The first script leaves a background, a kind and an examples header behind, and the second
one begins with a row, inherits a kind and has a fence that nothing closes. -/
theorem assemble_append_of_open_fence :
    let a := "Feature: f\nBackground:\n  When x\n  \"\"\"\n  Scenario: t\n  \"\"\"\n  Examples:\n"
    let b := "Scenario: s\n  | r |\n  And y\n  \"\"\"\n  Then z\n"
    Script.Apart a b
      ∧ ((Script.extract .inherit (a ++ b)).steps.map fun step =>
          (step.line, step.kind, step.text, step.scenario?, step.background))
        = [(3, .when, "x", some "Background", true), (10, .given, "y", some "s", false),
            (12, .then, "z", some "s", false)]
      ∧ (Script.extract .inherit (a ++ b)).exampleRows = []
      ∧ ∀ r : Registry,
        let file := r.assemble {} ⟨.cucumber, .playwright⟩ "f.feature"
        file (a ++ b) = file a ++ String.join ((Script.extract .inherit b).steps.map fun step =>
          "\n" ++ r.declareStep ⟨.cucumber, .playwright⟩ step ++ "\n") := by
  intro a b
  have hapart : Script.Apart a b := {
    ends := .inr (by decide)
    closed := by decide
    opens := ⟨"Scenario: s".toList, .scenario, ['s'], by decide⟩
    featureless := by decide }
  obtain ⟨hextract, hassemble⟩ := assemble_append hapart
  rw [hextract .inherit, Script.extract_eq_onePass, Script.extract_eq_onePass]
  refine ⟨hapart, by decide, by decide, fun r => ?_⟩
  rw [← Script.extract_eq_onePass]
  exact hassemble r {} ⟨.cucumber, .playwright⟩ "f.feature" rfl rfl (by decide)

end ScenarioSteps.Registry

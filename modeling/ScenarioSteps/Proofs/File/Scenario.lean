import ScenarioSteps.Proofs.File.Arrange
import ScenarioSteps.Proofs.File.Block

/-!
# `ScenarioSteps.Proofs.File.Scenario`: when each scenario has a block of its own

A file for `playwright-bdd` has a block for each run of steps with one
heading. The heading of a step is not the header it stands under: a
scenario with the title of the one before it has its heading too, and a
scenario without a title has the word of its header for one.

`assemble_scenarios` says what the blocks declare and when they keep the
scenarios apart (`Layout.KeepsScenariosApart`). That depends on neighbouring
steps of the script alone, not on the layout: they must not stand under two
headers with one heading. `scenarios_share_block_of_same_title` is a
script that fails it.
-/

set_option autoImplicit false

namespace ScenarioSteps

namespace Layout

/-- Whether the blocks for a script keep its scenarios apart. All steps that a
block declares stand under one header, and a step that is left out has its
sentence declared under its own header. -/
def KeepsScenariosApart (layout : Layout) (text : String) : Prop :=
  ∀ b ∈ Block.ofSteps (Script.extract layout.conjunctions text).steps,
    (∀ s ∈ layout.arrange b.steps, ∀ t ∈ layout.arrange b.steps,
      Script.scenarioHeader? text s.line = Script.scenarioHeader? text t.line)
    ∧ ∀ step ∈ b.steps, ∃ kept ∈ layout.arrange b.steps, kept.text = step.text
      ∧ Script.scenarioHeader? text kept.line = Script.scenarioHeader? text step.line

/-- Scenarios are kept apart if all steps of a block stand under one header,
declared or not. -/
theorem keepsScenariosApart_iff (layout : Layout) (text : String) :
    layout.KeepsScenariosApart text
      ↔ ∀ b ∈ Block.ofSteps (Script.extract layout.conjunctions text).steps,
          b.AgreesOn fun step => Script.scenarioHeader? text step.line := by
  refine forall₂_congr fun b _ => ⟨?_, fun hsame => ⟨?_, ?_⟩⟩
  · -- Each step is declared under its own header, and there all headers agree.
    rintro ⟨hdeclared, hkept⟩ s hs t ht
    obtain ⟨s', hs', -, hheader⟩ := hkept s hs
    obtain ⟨t', ht', -, hheader'⟩ := hkept t ht
    calc Script.scenarioHeader? text s.line
      _ = Script.scenarioHeader? text s'.line := hheader.symm
      _ = Script.scenarioHeader? text t'.line := hdeclared s' hs' t' ht'
      _ = Script.scenarioHeader? text t.line := hheader'
  · intro s hs t ht
    exact hsame s (mem_of_mem_arrange hs) t (mem_of_mem_arrange ht)
  · intro step hstep
    obtain ⟨kept, hkept, htext⟩ := layout.exists_mem_arrange hstep
    exact ⟨kept, hkept, htext, hsame kept (mem_of_mem_arrange hkept) step hstep⟩

end Layout

namespace Script

/-- A chain of steps may read the heading of a step off the script. -/
theorem isChain_heading_iff {α : Type} (policy : ConjunctionPolicy) (text : String)
    (f : ScriptStep → α) :
    (extract policy text).steps.IsChain (fun s t => s.heading = t.heading → f s = f t)
      ↔ (extract policy text).steps.IsChain
          (fun s t => heading text s.line = heading text t.line → f s = f t) := by
  refine List.IsChain.iff_of_mem_imp fun s t hs ht => ?_
  rw [heading_of_mem_extract hs, heading_of_mem_extract ht]

end Script

namespace Registry

/-- For `playwright-bdd`, a file is a header and the blocks of a script. A block
declares steps with one heading only. The blocks keep the scenarios apart
if and only if no step has the heading of the step before it without
standing under the same header. -/
theorem assemble_scenarios (r : Registry) (layout : Layout) (options : Options)
    (filename text : String) (houtput : options.output = .playwrightBdd) :
    let script := Script.extract layout.conjunctions text
    let blocks := Block.ofSteps script.steps
    r.assemble layout options filename text
        = fileHeader filename script.feature? options
          ++ "\n".intercalate (blocks.map fun b =>
              b.opening (script.feature?.getD filename) ++ "\n"
              ++ "\n".intercalate ((layout.arrange b.steps).map fun step =>
                  indent bodyIndent (r.declareStep options step))
              ++ "\x7d);\n")
      ∧ (∀ b ∈ blocks, ∀ s ∈ layout.arrange b.steps, ∀ t ∈ layout.arrange b.steps,
          Script.heading text s.line = Script.heading text t.line)
      ∧ (layout.KeepsScenariosApart text ↔ script.steps.IsChain fun s t =>
          Script.heading text s.line = Script.heading text t.line →
            Script.scenarioHeader? text s.line = Script.scenarioHeader? text t.line) := by
  refine ⟨?_, ?_, ?_⟩
  · unfold assemble
    rw [houtput]
    rfl
  · intro b hb s hs t ht
    -- A block has one heading, and arranging takes no step from another block.
    have hs := Layout.mem_of_mem_arrange hs
    have ht := Layout.mem_of_mem_arrange ht
    rw [← Script.heading_of_mem_extract (Block.mem_of_mem_ofSteps hb hs),
      ← Script.heading_of_mem_extract (Block.mem_of_mem_ofSteps hb ht)]
    rw [Block.heading_of_mem_ofSteps b hb s hs, Block.heading_of_mem_ofSteps b hb t ht]
  · rw [Layout.keepsScenariosApart_iff, Block.agreesOn_iff_isChain,
      Script.isChain_heading_iff]

/-- Two scenarios that differ in their titles are kept apart. -/
theorem assemble_scenarios_of_other_title :
    let text := "Scenario: a\n  Given x\nScenario: b\n  Given x\n"
    ({ deduplicate := true } : Layout).KeepsScenariosApart text := by
  intro text
  refine (assemble_scenarios .empty { deduplicate := true } ⟨.playwrightBdd, .playwright⟩
    "f.feature" text rfl).2.2.mpr ?_
  rw [Script.extract_eq_onePass]
  decide

/-- Two scenarios that do not differ in their titles share a block, and the
second one loses its step if sentences are declared once. -/
theorem scenarios_share_block_of_same_title :
    let text := "Scenario: a\n  Given x\nScenario: a\n  Given x\n"
    let blocks := Block.ofSteps (Script.extract .inherit text).steps
    Script.scenarioHeader? text 2 = some ⟨1, .scenario, ['a']⟩
      ∧ Script.scenarioHeader? text 4 = some ⟨3, .scenario, ['a']⟩
      ∧ blocks.map (fun b => (Layout.arrange {} b.steps).map (·.line)) = [[2, 4]]
      ∧ blocks.map (fun b => (Layout.arrange { deduplicate := true } b.steps).map (·.line))
          = [[2]]
      ∧ ¬ ({} : Layout).KeepsScenariosApart text
      ∧ ¬ ({ deduplicate := true } : Layout).KeepsScenariosApart text := by
  intro text blocks
  rw [Layout.keepsScenariosApart_iff, Layout.keepsScenariosApart_iff,
    Block.agreesOn_iff_isChain]
  subst blocks
  rw [Script.extract_eq_onePass]
  decide

end Registry

end ScenarioSteps
